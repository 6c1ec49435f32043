import TradeLocal.Proofs.Config.Concatenation
import TradeLocal.Proofs.Config.OpenQuote
import TradeLocal.Proofs.Expansion.Escape

/-!
# Written settings

A line for every setting, and the settings that are read back from the lines.  A value between
single quotes is read as it is, and a bare one expands to itself if it is escaped.
-/

namespace TradeLocal.Config

open Expansion

def assign (name written : Bytes) : Bytes :=
  name ++ Byte.equals :: written

namespace Line

theorem readValue_quoted {quote : UInt8} {inside after : Bytes} (quotes : isQuote quote = true)
    (unclosed : quote ∉ inside) :
    readValue (quote :: (inside ++ quote :: after)) =
      some (if quote = Byte.singleQuote then .literal inside else .expandable inside, after) := by
  obtain ⟨taken, dropped⟩ := Bytes.split_of_notMem unclosed after
  rw [readValue, if_pos quotes, dropped, taken]

theorem isQuote_eq_false_of_isBlank {byte : UInt8} (blank : Byte.isBlank byte = true) :
    isQuote byte = false := by
  simp only [Byte.isBlank, Bool.or_eq_true, beq_iff_eq] at blank
  rcases blank with rfl | rfl <;> rfl

theorem readValue_bare_append {bare tail : Bytes}
    (unquoted : (bare.head?.all fun byte => !isQuote byte) = true)
    (unbroken : ∀ byte ∈ bare, Byte.isBlank byte = false)
    (ended : (tail.head?.all Byte.isBlank) = true) :
    readValue (bare ++ tail) = some (.expandable bare, tail) := by
  have notQuote : ((bare ++ tail).head?.all fun byte => !isQuote byte) = true := by
    cases bare with
    | cons first rest => exact unquoted
    | nil =>
        cases tail with
        | nil => rfl
        | cons blank rest =>
            have separates : Byte.isBlank blank = true := by simpa using ended
            simp [isQuote_eq_false_of_isBlank separates]
  obtain ⟨taken, dropped⟩ := Bytes.split_iff.mpr
    ⟨rfl, fun byte member => by simp [unbroken byte member],
      show (tail.head?.all fun byte => !!Byte.isBlank byte) = true by simpa using ended⟩
  cases whole : bare ++ tail with
  | nil =>
      obtain ⟨rfl, rfl⟩ := List.append_eq_nil_iff.mp whole
      rfl
  | cons first rest =>
      rw [whole] at notQuote taken dropped
      have bareFirst : isQuote first = false := by simpa using notQuote
      rw [readValue, if_neg (by simp [bareFirst]), taken, dropped]

theorem readValue_bare {text : Bytes} (unquoted : (text.head?.all fun byte => !isQuote byte) = true)
    (unbroken : ∀ byte ∈ text, Byte.isBlank byte = false) :
    readValue text = some (.expandable text, []) := by
  have nothing : (([] : Bytes).head?.all Byte.isBlank) = true := rfl
  have read := readValue_bare_append unquoted unbroken nothing
  rwa [List.append_nil] at read

theorem isIgnorable_cons (byte : UInt8) (tail : Bytes) :
    isIgnorable (byte :: tail) =
      if Byte.isSpace byte then isIgnorable tail else byte == Byte.hash := by
  rw [isIgnorable, Bytes.trimLeft_cons]
  by_cases space : Byte.isSpace byte = true
  · rw [if_pos space, if_pos space, isIgnorable]
  · rw [if_neg space, if_neg space]

/-- A first word that goes on past an equals sign is not `export`. -/
theorem dropExport_of_unbroken {front : Bytes} (unbroken : ∀ byte ∈ front, Byte.isBlank byte = false)
    (text : Bytes) :
    dropExport (front ++ Byte.equals :: text) = front ++ Byte.equals :: text := by
  have words : ∀ byte ∈ front, (!Byte.isBlank byte) = true := by
    intro byte member
    rw [unbroken byte member, Bool.not_false]
  have equals : Byte.equals ∈ (front ++ Byte.equals :: text).takeWhile (!Byte.isBlank ·) := by
    rw [List.takeWhile_append_of_pos words, List.takeWhile_cons_of_pos (by decide)]
    simp
  rw [dropExport, if_neg]
  intro word
  rw [word] at equals
  revert equals
  decide

theorem dropExport_assign {name : Bytes} (valid : Bytes.isVariableName name = true)
    (written : Bytes) : dropExport (assign name written) = assign name written := by
  apply dropExport_of_unbroken
  intro byte member
  have names := Bytes.all_isName_of_isVariableName valid byte member
  simpa using Bytes.not_isBlank_of_isName names

theorem trim_assign {name written : Bytes} (valid : Bytes.isVariableName name = true)
    (ended : (written.getLast?.all fun byte => !Byte.isSpace byte) = true) :
    Bytes.trim (assign name written) = assign name written := by
  apply Bytes.trim_eq_self
  · cases name with
    | nil => cases valid
    | cons first rest =>
        have name := Bytes.all_isName_of_isVariableName valid first (by simp)
        cases space : Byte.isSpace first with
        | false => simp [assign, space]
        | true => simp [Bytes.isName_eq_false_of_isSpace space] at name
  · rw [assign, List.getLast?_append, List.getLast?_cons]
    cases last : written.getLast? with
    | none => simp; decide
    | some byte => simpa [last] using ended

theorem ofText_assign {name written : Bytes} (valid : Bytes.isVariableName name = true)
    (ended : (written.getLast?.all fun byte => !Byte.isSpace byte) = true) :
    ofText (assign name written) = ofAssignment name written := by
  have statement := dropExport_assign valid written
  rw [ofText, trim_assign valid ended]
  cases name with
  | nil => cases valid
  | cons first rest =>
      have notHash : first ≠ Byte.hash := by
        rintro rfl
        cases valid
      rw [assign, List.cons_append] at statement ⊢
      rw [ofTrimmed, if_neg notHash, statement]
      exact ofStatement_of_name valid written

theorem ofText_assign_of_readValue {name written tail : Bytes} {value : Value}
    (valid : Bytes.isVariableName name = true)
    (ended : (written.getLast?.all fun byte => !Byte.isSpace byte) = true)
    (read : readValue written = some (value, tail)) :
    ofText (assign name written) =
      if isIgnorable tail then .assignment name value else .trailing name := by
  rw [ofText_assign valid ended, ofAssignment, read]

end Line

theorem newline_notMem_assign {name written : Bytes} (valid : Bytes.isVariableName name = true)
    (oneLine : Byte.newline ∉ written) : Byte.newline ∉ assign name written := by
  have inName : Byte.newline ∉ name := Bytes.notMem_of_isVariableName valid (by decide)
  have notEquals : Byte.newline ≠ Byte.equals := by decide
  simp [assign, inName, notEquals, oneLine]

theorem parseLines_assignment {environment : Variables} {assignments : Assignments}
    {line name text : Bytes} {value : Value} (read : Line.ofText line = .assignment name value)
    (expands : value.expand (assignments.shadowing environment) = some text) (number : Nat)
    (rest : List Bytes) :
    parseLines environment number assignments (line :: rest) =
      parseLines environment (number + 1) (assignments.set name text) rest := by
  rw [parseLines, read, Line.effect, expands]

/-- How a value is written: as it is between single quotes, or escaped without quotes. -/
inductive Spelling where
  | quoted
  | escaped
  deriving DecidableEq, Repr

namespace Spelling

def written : Spelling → Bytes → Bytes
  | quoted, value => Byte.singleQuote :: value ++ [Byte.singleQuote]
  | escaped, value => escape value

/-- Which values can be written so. -/
def Fits : Spelling → Bytes → Prop
  | quoted, value => Byte.singleQuote ∉ value
  | escaped, value =>
      (∀ byte ∈ value, Byte.isBlank byte = false) ∧ value.head? ≠ some Byte.singleQuote ∧
        (value.getLast?.all fun byte => !Byte.isSpace byte) = true

instance : (spelling : Spelling) → (value : Bytes) → Decidable (spelling.Fits value)
  | quoted, value => inferInstanceAs (Decidable (Byte.singleQuote ∉ value))
  | escaped, value =>
      letI := List.decidableBAll (fun byte => Byte.isBlank byte = false) value
      inferInstanceAs (Decidable ((∀ byte ∈ value, Byte.isBlank byte = false) ∧ _ ∧ _))

variable {spelling : Spelling} {value : Bytes}

theorem head_escape (start : value.head? ≠ some Byte.singleQuote) :
    ((escape value).head?.all fun byte => !Line.isQuote byte) = true := by
  cases value with
  | nil => rfl
  | cons first rest =>
      -- An escaped double quote is no longer the first byte.
      by_cases listed : first ∈ Token.escapable
      · rw [escape_cons_of_mem listed]
        rfl
      · have notSingle : first ≠ Byte.singleQuote := by simpa using start
        have notDouble : first ≠ Byte.doubleQuote := by
          rintro rfl
          exact listed (by decide)
        simp [escape_cons_of_notMem listed, Line.isQuote, notSingle, notDouble]

theorem readValue_written (fits : spelling.Fits value) :
    ∃ read, Line.readValue (spelling.written value) = some (read, []) ∧
      ∀ values, read.expand values = some value := by
  cases spelling with
  | quoted =>
      have quotes : Line.isQuote Byte.singleQuote = true := rfl
      exact ⟨.literal value, Line.readValue_quoted quotes fits, fun values => rfl⟩
  | escaped =>
      obtain ⟨unbroken, start, _⟩ := fits
      refine ⟨.expandable (escape value), Line.readValue_bare (head_escape start) ?_,
        fun values => expand_escape values value⟩
      · intro byte member
        rcases mem_of_mem_escape member with rfl | inValue
        · decide
        · exact unbroken byte inValue

theorem last_written (fits : spelling.Fits value) :
    ((spelling.written value).getLast?.all fun byte => !Byte.isSpace byte) = true := by
  cases spelling with
  | quoted =>
      rw [written, List.getLast?_append_of_ne_nil _ (by simp)]
      rfl
  | escaped =>
      rw [written, getLast?_escape]
      exact fits.2.2

theorem newline_notMem_written (spelling : Spelling) (oneLine : Byte.newline ∉ value) :
    Byte.newline ∉ spelling.written value := by
  cases spelling with
  | quoted =>
      have notQuote : Byte.newline ≠ Byte.singleQuote := by decide
      simp [written, oneLine, notQuote]
  | escaped => exact notMem_escape (by decide) oneLine

end Spelling

/-- A setting that can be written on a line of its own. -/
structure Statement where
  name : Bytes
  value : Bytes
  spelling : Spelling
  valid : Bytes.isVariableName name = true
  oneLine : Byte.newline ∉ value
  fits : spelling.Fits value

namespace Statement

def line (statement : Statement) : Bytes :=
  assign statement.name (statement.spelling.written statement.value)

def pair (statement : Statement) : Bytes × Bytes :=
  (statement.name, statement.value)

theorem newline_notMem_line (statement : Statement) : Byte.newline ∉ statement.line :=
  newline_notMem_assign statement.valid
    (statement.spelling.newline_notMem_written statement.oneLine)

end Statement

theorem parseLines_statement (environment : Variables) (number : Nat) (assignments : Assignments)
    (statement : Statement) (rest : List Bytes) :
    parseLines environment number assignments (statement.line :: rest) =
      parseLines environment (number + 1) (assignments.set statement.name statement.value)
        rest := by
  obtain ⟨value, read, expands⟩ := Spelling.readValue_written statement.fits
  have line := Line.ofText_assign_of_readValue statement.valid
    (Spelling.last_written statement.fits) read
  exact parseLines_assignment line (expands _) number rest

theorem override_ofPairs_cons (assignments : Assignments) (name value : Bytes)
    (pairs : List (Bytes × Bytes)) :
    assignments.override (.ofPairs ((name, value) :: pairs)) =
      (assignments.set name value).override (.ofPairs pairs) := by
  simp [Assignments.override, Assignments.ofPairs, Assignments.set]

theorem parseLines_statements (environment : Variables) (number : Nat) (assignments : Assignments)
    (statements : List Statement) :
    parseLines environment number assignments (statements.map Statement.line) =
      ⟨[], .ok (assignments.override (.ofPairs (statements.map Statement.pair)))⟩ := by
  -- What the file has assigned so far stays below the statements that are left.
  induction statements generalizing number assignments with
  | nil => rfl
  | cons statement rest ih =>
      rw [List.map_cons, parseLines_statement, ih, List.map_cons, Statement.pair,
        override_ofPairs_cons]

theorem get?_ofPairs_eq_some_iff {pairs : List (Bytes × Bytes)} {name value : Bytes} :
    (Assignments.ofPairs pairs).get? name = some value ↔
      ∃ before after, pairs = before ++ (name, value) :: after ∧
        ∀ later ∈ after, later.1 ≠ name := by
  -- The pairs are held in reverse, so the one that is found first was given last.
  rw [Assignments.get?, Assignments.ofPairs, List.lookup_eq_some_iff]
  constructor
  · rintro ⟨after, before, split, others⟩
    refine ⟨before.reverse, after.reverse, ?_, ?_⟩
    · rw [List.reverse_eq_iff.mp split]
      simp
    · intro later member
      have differs := others later (List.mem_reverse.mp member)
      exact Ne.symm (by simpa using differs)
  · rintro ⟨before, after, rfl, others⟩
    refine ⟨after.reverse, before.reverse, by simp, ?_⟩
    intro later member
    simpa using Ne.symm (others later (List.mem_reverse.mp member))

theorem parse_join_lines (environment : Variables) (statements : List Statement) :
    parse environment (Bytes.join Byte.newline (statements.map Statement.line)) =
      ⟨[], .ok (.ofPairs (statements.map Statement.pair))⟩ := by
  have oneLine : ∀ line ∈ statements.map Statement.line, Byte.newline ∉ line := by
    intro line member
    obtain ⟨statement, _, rfl⟩ := List.mem_map.mp member
    exact statement.newline_notMem_line
  have nothing (later : Assignments) : ({} : Assignments).override later = later := by
    simp [Assignments.override]
  rw [parse_join environment oneLine, parseLines_statements, nothing]

/-- Literal settings, each on a line of its own, are read back in every environment: nothing is
noted, and each name has the value of its last setting. -/
theorem parse_statements (environment : Variables) (statements : List Statement) :
    ∃ file,
      parse environment (Bytes.join Byte.newline (statements.map Statement.line)) =
        ⟨[], .ok file⟩ ∧
      ∀ name value, file.get? name = some value ↔
        ∃ before last after, statements = before ++ last :: after ∧ last.name = name ∧
          last.value = value ∧ ∀ later ∈ after, later.name ≠ name := by
  refine ⟨.ofPairs (statements.map Statement.pair), parse_join_lines environment statements, ?_⟩
  intro name value
  rw [get?_ofPairs_eq_some_iff]
  constructor
  · rintro ⟨before, after, split, others⟩
    obtain ⟨front, back, rfl, rfl, tail⟩ := List.map_eq_append_iff.mp split
    obtain ⟨last, rest, rfl, same, rfl⟩ := List.map_eq_cons_iff.mp tail
    obtain ⟨rfl, rfl⟩ := Prod.mk.inj same
    refine ⟨front, last, rest, rfl, rfl, rfl, ?_⟩
    intro later member
    exact others later.pair (List.mem_map_of_mem member)
  · rintro ⟨before, last, after, rfl, rfl, rfl, others⟩
    refine ⟨before.map Statement.pair, after.map Statement.pair, by simp [Statement.pair], ?_⟩
    intro later member
    obtain ⟨source, sourceMember, rfl⟩ := List.mem_map.mp member
    exact others source sourceMember

/-- A variable named like the word in front of an assignment, with values that hold nearly
every byte that has a meaning on a line. -/
theorem parse_statements_export :
    ∃ file,
      parse (fun _ => none)
          (ascii "export='$\x7b # =\"\x7d '\nA=\\\"\nexport=#\\$\x7b=\\\\\x7d'\x00") =
        ⟨[], .ok file⟩ ∧
      file.get? (ascii "export") = some (ascii "#$\x7b=\\\x7d'\x00") := by
  let quoted : Statement :=
    ⟨ascii "export", ascii "$\x7b # =\"\x7d ", .quoted, by decide, by decide, by decide⟩
  let between : Statement := ⟨ascii "A", ascii "\"", .escaped, by decide, by decide, by decide⟩
  let bare : Statement :=
    ⟨ascii "export", ascii "#$\x7b=\\\x7d'\x00", .escaped, by decide, by decide, by decide⟩
  obtain ⟨file, parsed, values⟩ := parse_statements (fun _ => none) [quoted, between, bare]
  refine ⟨file, parsed, (values _ _).mpr ⟨[quoted, between], bare, [], rfl, rfl, rfl, ?_⟩⟩
  simp

end TradeLocal.Config
