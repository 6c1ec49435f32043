import TradeLocal.Config.File
import TradeLocal.Environment
import TradeLocal.Proofs.Bytes

/-!
# Reading files in sequence

Reading one file and then another is reading the file made of both.  The second is read
after the assignments of the first, which is the same as reading it alone in an environment
shadowed by them, with every line number raised.
-/

namespace TradeLocal

namespace Bytes

theorem splitOn_append (separator : UInt8) (first second : Bytes) :
    splitOn separator (first ++ separator :: second) =
      splitOn separator first ++ splitOn separator second := by
  induction first with
  | nil => simp [splitOn]
  | cons byte rest ih =>
      rw [List.cons_append, splitOn, splitOn]
      split
      · rw [ih, List.cons_append]
      · rw [ih]
        cases pieces : splitOn separator rest with
        | nil => exact absurd pieces (splitOn_ne_nil separator rest)
        | cons piece others => simp

theorem length_splitOn (separator : UInt8) (text : Bytes) :
    (splitOn separator text).length = text.count separator + 1 := by
  induction text with
  | nil => simp
  | cons byte rest ih =>
      rw [splitOn]
      split
      · next same => simp [same, ih]
      · next differ => simp [differ, ih]

end Bytes

namespace Config

/-- The same note, `lines` lines further down. -/
def Note.raise (lines : Nat) (note : Note) : Note :=
  { note with line := lines + note.line }

def Unterminated.raise (lines : Nat) (error : Unterminated) : Unterminated :=
  { error with line := lines + error.line }

namespace Parsed

def noting (note : Note) (parsed : Parsed) : Parsed :=
  { parsed with notes := note :: parsed.notes }

/-- Read on after what has been read, unless an error has ended the reading. -/
def andThen (parsed : Parsed) (next : Assignments → Parsed) : Parsed :=
  match parsed.result with
  | .error _ => parsed
  | .ok assignments =>
      ⟨parsed.notes ++ (next assignments).notes, (next assignments).result⟩

/-- What was read, as it appears behind `lines` lines that make the assignments
`earlier`. -/
def behind (earlier : Assignments) (lines : Nat) (parsed : Parsed) : Parsed where
  notes := parsed.notes.map (Note.raise lines)
  result :=
    match parsed.result with
    | .error error => .error (error.raise lines)
    | .ok assignments => .ok (earlier.override assignments)

theorem andThen_noting (note : Note) (parsed : Parsed) (next : Assignments → Parsed) :
    (parsed.noting note).andThen next = (parsed.andThen next).noting note := by
  rcases parsed with ⟨notes, error | assignments⟩ <;> rfl

end Parsed

theorem parseLines_append (environment : Variables) (number : Nat) (assignments : Assignments)
    (first second : List Bytes) :
    parseLines environment number assignments (first ++ second) =
      (parseLines environment number assignments first).andThen fun later =>
        parseLines environment (number + first.length) later second := by
  induction first generalizing number assignments with
  | nil => simp [parseLines, Parsed.andThen]
  | cons line rest ih =>
      have further : number + (line :: rest).length = number + 1 + rest.length := by
        rw [List.length_cons]
        omega
      rw [List.cons_append, parseLines, parseLines, further]
      cases (Line.ofText line).effect (assignments.shadowing environment) with
      | nothing => exact ih (number + 1) assignments
      | set name value => exact ih (number + 1) (assignments.set name value)
      | fail quote name => rfl
      | skip reason =>
          exact (congrArg (Parsed.noting ⟨number, reason⟩) (ih (number + 1) assignments)).trans
            (Parsed.andThen_noting _ _ _).symm

/-- Lines behind others are read as in an environment that the earlier assignments
shadow. -/
theorem parseLines_override (environment : Variables) (earlier assignments : Assignments)
    (shift number : Nat) (lines : List Bytes) :
    parseLines environment (shift + number) (earlier.override assignments) lines =
      (parseLines (earlier.shadowing environment) number assignments lines).behind earlier
        shift := by
  induction lines generalizing number assignments with
  | nil => rfl
  | cons line rest ih =>
      rw [parseLines, parseLines, Assignments.override_shadowing]
      cases (Line.ofText line).effect
          (assignments.shadowing (earlier.shadowing environment)) with
      | nothing => exact ih assignments (number + 1)
      | set name value => exact ih (assignments.set name value) (number + 1)
      | fail quote name => rfl
      | skip reason =>
          exact congrArg (Parsed.noting ⟨shift + number, reason⟩) (ih assignments (number + 1))

theorem parse_join (environment : Variables) {lines : List Bytes}
    (oneLine : ∀ line ∈ lines, Byte.newline ∉ line) :
    parse environment (Bytes.join Byte.newline lines) = parseLines environment 1 {} lines := by
  cases lines with
  | nil => rfl
  | cons line rest => rw [parse, Bytes.splitOn_join oneLine (List.cons_ne_nil line rest)]

/-- Parsing two contents with a newline between them: an error in the first is the error of
the whole, and otherwise the second is parsed where the assignments of the first shadow the
environment, with its lines numbered behind those of the first. -/
theorem parse_append_newline (environment : Variables) (first second : Bytes) :
    parse environment (first ++ Byte.newline :: second) =
      match (parse environment first).result with
      | .error _ => parse environment first
      | .ok earlier =>
          let lines := first.count Byte.newline + 1
          let later := parse (earlier.shadowing environment) second
          { notes := (parse environment first).notes ++ later.notes.map (Note.raise lines)
            result :=
              match later.result with
              | .error error => .error (error.raise lines)
              | .ok assignments => .ok (earlier.override assignments) } := by
  rw [parse, Bytes.splitOn_append, parseLines_append, Bytes.length_splitOn]
  show (parse environment first).andThen _ = _
  cases read : (parse environment first).result with
  | error error => simp only [Parsed.andThen, read]
  | ok earlier =>
      have later := parseLines_override environment earlier {} (first.count Byte.newline + 1) 1
        (Bytes.splitOn Byte.newline second)
      have nothingAfter : earlier.override {} = earlier := rfl
      rw [nothingAfter, Nat.add_comm _ 1] at later
      simp only [Parsed.andThen, read, later]
      rfl

/-- The note and the error of the second part are two lines further down in the whole. -/
theorem parse_append_newline_raised :
    let environment := Variables.ofPairs [(ascii "A", ascii "b")]
    let first := ascii "A=a\nset -x"
    let second := ascii "B=$A\nC=$(date)\nD='"
    let later := parse ((⟨[(ascii "A", ascii "a")]⟩ : Assignments).shadowing environment) second
    later.notes = [⟨2, .unsupportedExpansion (ascii "C")⟩] ∧
      later.result = .error ⟨3, 39, ascii "D"⟩ ∧
      parse environment (first ++ Byte.newline :: second) =
        { notes := [⟨2, .notAssignment⟩, ⟨4, .unsupportedExpansion (ascii "C")⟩]
          result := .error ⟨5, 39, ascii "D"⟩ } := by
  intro environment first second later
  have notes : (parse environment first).notes = [⟨2, .notAssignment⟩] := by decide +kernel
  have read : (parse environment first).result = .ok ⟨[(ascii "A", ascii "a")]⟩ := by
    decide +kernel
  have laterNotes : later.notes = [⟨2, .unsupportedExpansion (ascii "C")⟩] := by decide +kernel
  have laterResult : later.result = .error ⟨3, 39, ascii "D"⟩ := by decide +kernel
  refine ⟨laterNotes, laterResult, ?_⟩
  rw [parse_append_newline, read, notes]
  show Parsed.mk (_ ++ later.notes.map (Note.raise 2)) _ = _
  rw [laterNotes, laterResult]
  rfl

end Config

end TradeLocal
