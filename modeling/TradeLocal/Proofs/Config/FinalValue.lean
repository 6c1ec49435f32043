import Mathlib.Data.List.Induction
import TradeLocal.Proofs.Config.Concatenation

/-!
# Final values

The value that a name is left with after a file is that of the last line accepted as an
assignment to it.  A line that is skipped later does not undo it.
-/

namespace TradeLocal.Config

/-- The line at a position, read behind those in front of it, gives the name the value. -/
def Assigns (environment : Variables) (lines : List Bytes) (position : Nat)
    (name value : Bytes) : Prop :=
  ∃ line assignments, lines[position]? = some line ∧
    (parseLines environment 1 {} (lines.take position)).result = .ok assignments ∧
    (Line.ofText line).effect (assignments.shadowing environment) = .set name value

/-- The line at a position, read behind those in front of it, makes an assignment. -/
def Assigned (environment : Variables) (lines : List Bytes) (position : Nat) : Prop :=
  ∃ name value, Assigns environment lines position name value

/-- The value that the last assignment to a name gives it; `none` if no line assigns to it. -/
def FinalValue (environment : Variables) (lines : List Bytes) (name : Bytes) :
    Option Bytes → Prop
  | none => ∀ position value, ¬Assigns environment lines position name value
  | some value => ∃ position, Assigns environment lines position name value ∧
      ∀ later, position < later → ∀ other, ¬Assigns environment lines later name other

/-- The assignments after a line with this effect, unless it ends the reading. -/
def Effect.after? (assignments : Assignments) : Effect → Option Assignments
  | nothing | skip _ => some assignments
  | set name value => some (assignments.set name value)
  | fail _ _ => none

variable {environment : Variables} {lines : List Bytes}

theorem Assigns.unique {position : Nat} {name first second : Bytes}
    (one : Assigns environment lines position name first)
    (two : Assigns environment lines position name second) : first = second := by
  obtain ⟨line, assignments, place, before, effect⟩ := one
  obtain ⟨line', assignments', place', before', effect'⟩ := two
  obtain rfl : line = line' := Option.some.inj (place.symm.trans place')
  obtain rfl : assignments = assignments' := Except.ok.inj (before.symm.trans before')
  exact (Effect.set.inj (effect.symm.trans effect')).2

theorem Assigns.lt_length {position : Nat} {name value : Bytes}
    (assigns : Assigns environment lines position name value) : position < lines.length := by
  obtain ⟨line, _, place, _⟩ := assigns
  exact (List.getElem?_eq_some_iff.mp place).1

theorem assigns_iff_of_read {position : Nat} {line name value : Bytes} {before : Assignments}
    (place : lines[position]? = some line)
    (read : (parseLines environment 1 {} (lines.take position)).result = .ok before) :
    Assigns environment lines position name value ↔
      (Line.ofText line).effect (before.shadowing environment) = .set name value := by
  constructor
  · rintro ⟨present, assignments, presentPlace, readSame, effect⟩
    obtain rfl : line = present := Option.some.inj (place.symm.trans presentPlace)
    obtain rfl : before = assignments := Except.ok.inj (read.symm.trans readSame)
    exact effect
  · exact fun effect => ⟨line, before, place, read, effect⟩

theorem FinalValue.unique {name : Bytes} {first second : Option Bytes}
    (one : FinalValue environment lines name first)
    (two : FinalValue environment lines name second) : first = second := by
  cases first with
  | none =>
      cases second with
      | none => rfl
      | some value =>
          obtain ⟨position, assigns, _⟩ := two
          exact absurd assigns (one position value)
  | some value =>
      obtain ⟨position, assigns, last⟩ := one
      cases second with
      | none => exact absurd assigns (two position value)
      | some other =>
          obtain ⟨otherPosition, otherAssigns, otherLast⟩ := two
          rcases Nat.lt_trichotomy position otherPosition with before | rfl | after
          · exact absurd otherAssigns (last otherPosition before other)
          · rw [assigns.unique otherAssigns]
          · exact absurd assigns (otherLast position after value)

theorem result_parseLines_concat {line : Bytes} {later : Assignments} :
    (parseLines environment 1 {} (lines ++ [line])).result = .ok later ↔
      ∃ earlier, (parseLines environment 1 {} lines).result = .ok earlier ∧
        ((Line.ofText line).effect (earlier.shadowing environment)).after? earlier =
          some later := by
  rw [parseLines_append, Parsed.andThen]
  cases read : (parseLines environment 1 {} lines).result with
  | error error => simp [read]
  | ok earlier =>
      simp only [parseLines, Except.ok.injEq, exists_eq_left']
      cases (Line.ofText line).effect (earlier.shadowing environment) <;> simp [Effect.after?]

theorem assigns_concat_iff {line : Bytes} {position : Nat} {name value : Bytes} :
    Assigns environment (lines ++ [line]) position name value ↔
      Assigns environment lines position name value ∨
        position = lines.length ∧ ∃ assignments,
          (parseLines environment 1 {} lines).result = .ok assignments ∧
          (Line.ofText line).effect (assignments.shadowing environment) = .set name value := by
  rcases Nat.lt_trichotomy position lines.length with before | rfl | after
  · have place : (lines ++ [line])[position]? = lines[position]? :=
      List.getElem?_append_left before
    simp [Assigns, place, List.take_append_of_le_length (Nat.le_of_lt before),
      Nat.ne_of_lt before]
  · simp [Assigns]
  · constructor
    · intro assigns
      have := assigns.lt_length
      simp only [List.length_append, List.length_cons, List.length_nil] at this
      omega
    · rintro (assigns | ⟨rfl, _⟩)
      · have := assigns.lt_length
        omega
      · exact absurd after (Nat.lt_irrefl _)

theorem FinalValue.concat_of_not_assigned {line name : Bytes} {value : Option Bytes}
    (final : FinalValue environment lines name value)
    (unassigned : ∀ other, ¬Assigns environment (lines ++ [line]) lines.length name other) :
    FinalValue environment (lines ++ [line]) name value := by
  have inside : ∀ position other, Assigns environment (lines ++ [line]) position name other →
      Assigns environment lines position name other := by
    intro position other assigns
    rcases assigns_concat_iff.mp assigns with before | ⟨rfl, _⟩
    · exact before
    · exact absurd assigns (unassigned other)
  cases value with
  | none => exact fun position other assigns => final position other (inside position other assigns)
  | some value =>
      obtain ⟨position, assigns, last⟩ := final
      refine ⟨position, assigns_concat_iff.mpr (.inl assigns), ?_⟩
      exact fun later after other assigns => last later after other (inside later other assigns)

theorem assigns_last_iff {line : Bytes} {earlier : Assignments}
    (read : (parseLines environment 1 {} lines).result = .ok earlier) {name value : Bytes} :
    Assigns environment (lines ++ [line]) lines.length name value ↔
      (Line.ofText line).effect (earlier.shadowing environment) = .set name value := by
  apply assigns_iff_of_read
  · exact List.getElem?_concat_length
  · rwa [List.take_left]

theorem FinalValue.of_assigns_last {line name value : Bytes}
    (assigns : Assigns environment (lines ++ [line]) lines.length name value) :
    FinalValue environment (lines ++ [line]) name (some value) := by
  refine ⟨lines.length, assigns, ?_⟩
  intro later after other laterAssigns
  have := laterAssigns.lt_length
  simp only [List.length_append, List.length_cons, List.length_nil] at this
  omega

theorem Effect.get?_of_after? {effect : Effect} {earlier file : Assignments} {name : Bytes}
    (done : effect.after? earlier = some file) (unassigned : ∀ value, effect ≠ .set name value) :
    file.get? name = earlier.get? name := by
  cases effect with
  | set other value =>
      obtain rfl : earlier.set other value = file := by simpa [after?] using done
      have different : name ≠ other := by
        rintro rfl
        exact unassigned value rfl
      rw [Assignments.get?_set, if_neg different]
  | fail quote other => simp [after?] at done
  | _ =>
      obtain rfl : earlier = file := by simpa [after?] using done
      rfl

theorem finalValue_get? {file : Assignments}
    (read : (parseLines environment 1 {} lines).result = .ok file) (name : Bytes) :
    FinalValue environment lines name (file.get? name) := by
  induction lines using List.reverseRecOn generalizing file with
  | nil =>
      obtain rfl : {} = file := Except.ok.inj read
      intro position value assigns
      have := assigns.lt_length
      simp at this
  | append_singleton lines line ih =>
      obtain ⟨earlier, readEarlier, done⟩ := result_parseLines_concat.mp read
      by_cases assigned : ∃ value, (Line.ofText line).effect (earlier.shadowing environment) =
          .set name value
      · obtain ⟨value, effect⟩ := assigned
        obtain rfl : earlier.set name value = file := by
          simpa [effect, Effect.after?] using done
        rw [Assignments.get?_set, if_pos rfl]
        exact .of_assigns_last ((assigns_last_iff readEarlier).mpr effect)
      · have unassigned := not_exists.mp assigned
        rw [Effect.get?_of_after? done unassigned]
        apply (ih readEarlier).concat_of_not_assigned
        exact fun value assigns => unassigned value ((assigns_last_iff readEarlier).mp assigns)

/-- The final values of a file that is read are those that are looked up. -/
theorem finalValue_iff {file : Assignments}
    (read : (parseLines environment 1 {} lines).result = .ok file) {name : Bytes}
    {value : Option Bytes} :
    FinalValue environment lines name value ↔ file.get? name = value := by
  constructor
  · exact fun final => (finalValue_get? read name).unique final
  · rintro rfl
    exact finalValue_get? read name

end TradeLocal.Config
