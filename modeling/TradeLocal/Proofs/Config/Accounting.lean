import TradeLocal.Proofs.Config.FinalValue
import TradeLocal.Run

/-!
# The account of a file

In a file that can be read, every line makes one assignment, is noted once, or says nothing.  So
the notes stand in the order of the lines, and the lines that do not assign can be left out.
-/

namespace TradeLocal.Config

def SaysNothing (line : Bytes) : Prop :=
  Bytes.trim line = [] ∨ (Bytes.trim line).head? = some Byte.hash

/-- What a line with this number may make of the assignments before it, and the notes about it. -/
inductive Accounted (number : Nat) (line : Bytes) (before : Assignments) :
    Assignments → List Note → Prop where
  | nothing (idle : SaysNothing line) : Accounted number line before before []
  | assigned (stated : ¬SaysNothing line) (name value : Bytes) :
      Accounted number line before (before.set name value) []
  | noted (stated : ¬SaysNothing line) (reason : Skip) :
      Accounted number line before before [⟨number, reason⟩]

def Effect.notes (number : Nat) : Effect → List Note
  | skip reason => [⟨number, reason⟩]
  | _ => []

def Note.message (source : Bytes) (note : Note) : Notice :=
  .load (.skipped source note)

instance (environment : Variables) (lines : List Bytes) (position : Nat) :
    Decidable (Assigned environment lines position) :=
  match place : lines[position]?,
      read : (parseLines environment 1 {} (lines.take position)).result with
  | some line, .ok before =>
      match effect : (Line.ofText line).effect (before.shadowing environment) with
      | .set name value => isTrue ⟨name, value, line, before, place, read, effect⟩
      | .nothing | .skip _ | .fail _ _ => isFalse fun ⟨_, _, _, _, place', read', effect'⟩ => by
          simp_all
  | none, _ => isFalse fun ⟨_, _, _, _, place', _, _⟩ => by simp_all
  | some _, .error _ => isFalse fun ⟨_, _, _, _, _, read', _⟩ => by simp_all

/-- The lines of a file that make an assignment when it is read in the environment. -/
def assigningLines (environment : Variables) (lines : List Bytes) : List Bytes :=
  (lines.zipIdx.filter fun entry => Assigned environment lines entry.2).map Prod.fst

namespace Line

theorem ofAssignment_ne_blank (name text : Bytes) : ofAssignment name text ≠ .blank := by
  rw [ofAssignment]
  split
  · exact nofun
  · split
    · exact nofun
    · exact nofun

theorem ofStatement_ne_blank (statement : Bytes) : ofStatement statement ≠ .blank := by
  rw [ofStatement]
  split
  · exact nofun
  · split
    · exact ofAssignment_ne_blank _ _
    · exact nofun

theorem ofText_eq_blank_iff {line : Bytes} : ofText line = .blank ↔ SaysNothing line := by
  rw [ofText, SaysNothing]
  cases Bytes.trim line with
  | nil => simp [ofTrimmed]
  | cons first rest =>
      rw [ofTrimmed]
      split
      · next comment => simp [comment]
      · next other => simp [other, ofStatement_ne_blank]

theorem effect_eq_nothing_iff {values : Variables} {line : Line} :
    line.effect values = .nothing ↔ line = .blank := by
  cases line with
  | assignment name value =>
      rw [effect]
      cases value.expand values <;> simp
  | _ => simp [effect]

end Line

theorem Assignments.set_ne_self (assignments : Assignments) (name value : Bytes) :
    assignments.set name value ≠ assignments := by
  intro same
  have longer := congrArg (fun assignments => assignments.history.length) same
  simp [set] at longer

variable {environment : Variables} {lines : List Bytes} {line : Bytes}

theorem Effect.eq_set_iff_of_after? {effect : Effect} {before after : Assignments}
    (done : effect.after? before = some after) {name value : Bytes} :
    effect = .set name value ↔ after = before.set name value := by
  cases effect with
  | set other text =>
      obtain rfl : before.set other text = after := by simpa [after?] using done
      simp [Assignments.set]
  | fail quote other => cases done
  | _ =>
      obtain rfl : before = after := by simpa [after?] using done
      simp [(before.set_ne_self name value).symm]

theorem Effect.eq_of_after? {effect : Effect} {before after : Assignments}
    (done : effect.after? before = some after)
    (unassigned : ∀ name value, effect ≠ .set name value) : after = before := by
  cases effect with
  | set name value => exact absurd rfl (unassigned name value)
  | fail quote name => cases done
  | _ => exact (Option.some.inj done).symm

theorem Effect.notes_of_mem {effect : Effect} {number : Nat} {note : Note}
    (member : note ∈ effect.notes number) :
    note.line = number ∧ effect.notes number = [note] := by
  cases effect with
  | skip reason =>
      obtain rfl : note = ⟨number, reason⟩ := by simpa [notes] using member
      exact ⟨rfl, rfl⟩
  | _ => cases member

theorem accounted_of_after? {before after : Assignments} (number : Nat)
    (done : ((Line.ofText line).effect (before.shadowing environment)).after? before =
      some after) :
    Accounted number line before after
      (((Line.ofText line).effect (before.shadowing environment)).notes number) := by
  have silent : (Line.ofText line).effect (before.shadowing environment) = .nothing ↔
      SaysNothing line :=
    Line.effect_eq_nothing_iff.trans Line.ofText_eq_blank_iff
  cases effect : (Line.ofText line).effect (before.shadowing environment) with
  | nothing =>
      obtain rfl : before = after := by simpa [effect, Effect.after?] using done
      exact .nothing (silent.mp effect)
  | skip reason =>
      obtain rfl : before = after := by simpa [effect, Effect.after?] using done
      exact .noted (by simp [← silent, effect]) reason
  | set name value =>
      obtain rfl : before.set name value = after := by simpa [effect, Effect.after?] using done
      exact .assigned (by simp [← silent, effect]) name value
  | fail quote name => simp [effect, Effect.after?] at done

theorem notes_parseLines_concat {before : Assignments}
    (read : (parseLines environment 1 {} lines).result = .ok before) :
    (parseLines environment 1 {} (lines ++ [line])).notes =
      (parseLines environment 1 {} lines).notes ++
        ((Line.ofText line).effect (before.shadowing environment)).notes (lines.length + 1) := by
  rw [parseLines_append, Parsed.andThen, read]
  simp only [parseLines, Nat.add_comm 1]
  cases (Line.ofText line).effect (before.shadowing environment) <;> simp [Effect.notes]

theorem result_parseLines_take {file : Assignments}
    (read : (parseLines environment 1 {} lines).result = .ok file) (position : Nat) :
    ∃ before, (parseLines environment 1 {} (lines.take position)).result = .ok before := by
  rw [← List.take_append_drop position lines, parseLines_append, Parsed.andThen] at read
  cases front : (parseLines environment 1 {} (lines.take position)).result with
  | ok before => exact ⟨before, rfl⟩
  | error error => simp [front] at read

theorem accounted_of_read {file : Assignments}
    (read : (parseLines environment 1 {} lines).result = .ok file) {position : Nat}
    (place : lines[position]? = some line) :
    ∃ before after notes,
      (parseLines environment 1 {} (lines.take position)).result = .ok before ∧
      (parseLines environment 1 {} (lines.take (position + 1))).result = .ok after ∧
      (parseLines environment 1 {} (lines.take (position + 1))).notes =
        (parseLines environment 1 {} (lines.take position)).notes ++ notes ∧
      Accounted (position + 1) line before after notes ∧
      ∀ name value, Assigns environment lines position name value ↔
        after = before.set name value := by
  obtain ⟨before, readBefore⟩ := result_parseLines_take read position
  obtain ⟨after, readAfter⟩ := result_parseLines_take read (position + 1)
  have within : position < lines.length := (List.getElem?_eq_some_iff.mp place).1
  have number : (lines.take position).length = position := List.length_take_of_le within.le
  have further : lines.take (position + 1) = lines.take position ++ [line] := by
    rw [List.take_add_one, place, Option.toList_some]
  rw [further] at readAfter
  obtain ⟨earlier, readEarlier, done⟩ := result_parseLines_concat.mp readAfter
  obtain rfl : before = earlier := Except.ok.inj (readBefore.symm.trans readEarlier)
  refine ⟨before, after, _, readBefore, further ▸ readAfter, ?_, accounted_of_after? _ done, ?_⟩
  · rw [further, notes_parseLines_concat readBefore, number]
  · intro name value
    rw [assigns_iff_of_read place readBefore, Effect.eq_set_iff_of_after? done]

/-- Every note is about the line at whose reading it was made. -/
theorem exists_line_of_mem_notes {file : Assignments}
    (read : (parseLines environment 1 {} lines).result = .ok file) {note : Note}
    (member : note ∈ (parseLines environment 1 {} lines).notes) :
    ∃ position, position < lines.length ∧ note.line = position + 1 ∧
      (parseLines environment 1 {} (lines.take (position + 1))).notes =
        (parseLines environment 1 {} (lines.take position)).notes ++ [note] := by
  induction lines using List.reverseRecOn generalizing file with
  | nil => simp [parseLines] at member
  | append_singleton lines line ih =>
      obtain ⟨earlier, readEarlier, _⟩ := result_parseLines_concat.mp read
      rw [notes_parseLines_concat readEarlier, List.mem_append] at member
      rcases member with before | last
      · -- What is read up to a position does not depend on a line added behind it.
        obtain ⟨position, within, number, noted⟩ := ih readEarlier before
        refine ⟨position, ?_, number, ?_⟩
        · rw [List.length_append]
          omega
        · rwa [List.take_append_of_le_length within, List.take_append_of_le_length within.le]
      · have whole : (lines ++ [line]).take (lines.length + 1) = lines ++ [line] :=
          List.take_of_length_le (by simp)
        obtain ⟨number, only⟩ := Effect.notes_of_mem last
        refine ⟨lines.length, by simp, number, ?_⟩
        rw [whole, notes_parseLines_concat readEarlier, List.take_left, only]

theorem notes_pairwise {file : Assignments}
    (read : (parseLines environment 1 {} lines).result = .ok file) :
    (parseLines environment 1 {} lines).notes.Pairwise
      fun earlier later => earlier.line < later.line := by
  induction lines using List.reverseRecOn generalizing file with
  | nil => exact .nil
  | append_singleton lines line ih =>
      obtain ⟨earlier, readEarlier, _⟩ := result_parseLines_concat.mp read
      rw [notes_parseLines_concat readEarlier, List.pairwise_append]
      refine ⟨ih readEarlier, ?_, ?_⟩
      · cases (Line.ofText line).effect (earlier.shadowing environment) <;> simp [Effect.notes]
      · intro before beforeMember last lastMember
        obtain ⟨position, within, number, _⟩ := exists_line_of_mem_notes readEarlier beforeMember
        obtain ⟨lastNumber, _⟩ := Effect.notes_of_mem lastMember
        omega

theorem assigned_concat_iff {position : Nat} (within : position < lines.length) :
    Assigned environment (lines ++ [line]) position ↔ Assigned environment lines position := by
  have front (name value : Bytes) :
      Assigns environment (lines ++ [line]) position name value ↔
        Assigns environment lines position name value := by
    rw [assigns_concat_iff, or_iff_left]
    rintro ⟨rfl, _⟩
    exact Nat.lt_irrefl _ within
  simp only [Assigned, front]

theorem assigningLines_concat :
    assigningLines environment (lines ++ [line]) =
      assigningLines environment lines ++
        if Assigned environment (lines ++ [line]) lines.length then [line] else [] := by
  have front : lines.zipIdx.filter (fun entry => Assigned environment (lines ++ [line]) entry.2) =
      lines.zipIdx.filter fun entry => Assigned environment lines entry.2 := by
    apply List.filter_congr
    intro entry member
    rw [decide_eq_decide, assigned_concat_iff (List.snd_lt_of_mem_zipIdx member)]
  rw [assigningLines, List.zipIdx_append, List.filter_append, front, List.map_append,
    assigningLines]
  by_cases assigned : Assigned environment (lines ++ [line]) lines.length
  · simp [assigned]
  · simp [assigned]

theorem parseLines_assigningLines {file : Assignments}
    (read : (parseLines environment 1 {} lines).result = .ok file) :
    parseLines environment 1 {} (assigningLines environment lines) = ⟨[], .ok file⟩ := by
  induction lines using List.reverseRecOn generalizing file with
  | nil =>
      obtain rfl : {} = file := Except.ok.inj read
      rfl
  | append_singleton lines line ih =>
      obtain ⟨earlier, readEarlier, done⟩ := result_parseLines_concat.mp read
      have kept := ih readEarlier
      -- The line is read after the same assignments, only with another number.
      rw [assigningLines_concat]
      split
      · next assigned =>
          obtain ⟨name, value, assigns⟩ := assigned
          have effect := (assigns_last_iff readEarlier).mp assigns
          obtain rfl : earlier.set name value = file := by
            simpa [effect, Effect.after?] using done
          rw [parseLines_append, kept]
          simp only [Parsed.andThen, parseLines, effect, List.nil_append]
      · next unassigned =>
          have same : file = earlier := by
            apply Effect.eq_of_after? done
            intro name value effect
            exact unassigned ⟨name, value, (assigns_last_iff readEarlier).mpr effect⟩
          rw [List.append_nil, kept, same]

theorem mem_of_mem_assigningLines (member : line ∈ assigningLines environment lines) :
    line ∈ lines := by
  obtain ⟨entry, kept, rfl⟩ := List.mem_map.mp member
  exact List.fst_mem_of_mem_zipIdx (List.mem_filter.mp kept).1

/-- In a file that can be read, every line is accounted for.  The notes are about lines further
and further down, and their messages begin with the numbers of these lines.  The lines that assign
give the same assignments without the other lines, and nothing is noted. -/
theorem parse_accounted {contents : Bytes} {file : Assignments}
    (read : (parse environment contents).result = .ok file) (source : Bytes) :
    let lines := Bytes.splitOn Byte.newline contents
    let readTo (position : Nat) := parseLines environment 1 {} (lines.take position)
    parse environment contents = readTo lines.length ∧
    (∀ position line, lines[position]? = some line →
      ∃ before after notes,
        (readTo position).result = .ok before ∧ (readTo (position + 1)).result = .ok after ∧
        (readTo (position + 1)).notes = (readTo position).notes ++ notes ∧
        Accounted (position + 1) line before after notes ∧
        ∀ name value, Assigns environment lines position name value ↔
          after = before.set name value) ∧
    ((parse environment contents).notes.Pairwise fun earlier later => earlier.line < later.line) ∧
    (∀ note ∈ (parse environment contents).notes,
      ∃ position, position < lines.length ∧ note.line = position + 1 ∧
        (readTo (position + 1)).notes = (readTo position).notes ++ [note] ∧
        (note.message source).severity = .info ∧
        ∀ showPid, (note.message source).text showPid =
          source ++ ascii ":" ++ Bytes.ofNat (position + 1) ++ ascii ": " ++ note.skip.text) ∧
    parse environment (Bytes.join Byte.newline (assigningLines environment lines)) =
      ⟨[], .ok file⟩ := by
  intro lines readTo
  refine ⟨?_, ?_, notes_pairwise read, ?_, ?_⟩
  · show parse environment contents = parseLines environment 1 {} (lines.take lines.length)
    rw [List.take_length, parse]
  · intro position line place
    exact accounted_of_read read place
  · intro note member
    obtain ⟨position, within, number, noted⟩ := exists_line_of_mem_notes read member
    refine ⟨position, within, number, noted, rfl, ?_⟩
    intro showPid
    rw [← number]
    rfl
  · have oneLine : ∀ line ∈ assigningLines environment lines, Byte.newline ∉ line := by
      intro line member
      exact Bytes.notMem_of_mem_splitOn (mem_of_mem_assigningLines member)
    rw [parse_join environment oneLine]
    exact parseLines_assigningLines read

/-- A file whose third line cannot be expanded and leaves the variable with its earlier value. -/
theorem parse_accounted_unexpanded :
    (parse (fun _ => none) (ascii "# c\nA=1\nA=$A$(x)\nB=$A")).result =
        .ok (.ofPairs [(ascii "A", ascii "1"), (ascii "B", ascii "1")]) ∧
      parse (fun _ => none) (ascii "A=1\nB=$A") =
        ⟨[], .ok (.ofPairs [(ascii "A", ascii "1"), (ascii "B", ascii "1")])⟩ := by
  have read : (parse (fun _ => none) (ascii "# c\nA=1\nA=$A$(x)\nB=$A")).result =
      .ok (.ofPairs [(ascii "A", ascii "1"), (ascii "B", ascii "1")]) := by
    decide +kernel
  have lines : assigningLines (fun _ => none)
      (Bytes.splitOn Byte.newline (ascii "# c\nA=1\nA=$A$(x)\nB=$A")) =
        [ascii "A=1", ascii "B=$A"] := by
    decide +kernel
  have assigning := (parse_accounted read (ascii "./config.sh")).2.2.2.2
  rw [lines] at assigning
  exact ⟨read, assigning⟩

end TradeLocal.Config
