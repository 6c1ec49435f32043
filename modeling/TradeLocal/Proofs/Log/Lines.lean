import Mathlib.Data.List.Forall2
import Mathlib.Data.List.Induction
import Mathlib.Tactic.MkIffOfInductiveProp
import TradeLocal.Proofs.Bytes
import TradeLocal.Log

/-!
# The lines of a log

A log is used until a fatal entry ends the process.  Up to there each entry is written or dropped
by the threshold asked for last, in the order of the uses.  An entry is logged when its text is
complete, so of entries that are put together at one time the first is the one finished first.
-/

namespace TradeLocal.Log

inductive Named : Severity → Bytes → Prop where
  | info : Named 0 (ascii "INFO")
  | warning : Named 1 (ascii "WARNING")
  | error : Named 2 (ascii "ERROR")
  | fatal : Named 3 (ascii "FATAL")
  | unknown {severity : Severity} (outside : severity < 0 ∨ 3 < severity) :
      Named severity (ascii "UNKNOWN")

/-- The front of a text is what stands before the first `stop`. -/
inductive Front (stop : UInt8) : Bytes → Bytes → Prop where
  | whole {text : Bytes} (free : stop ∉ text) : Front stop text text
  | cut {front : Bytes} (free : stop ∉ front) (rest : Bytes) :
      Front stop (front ++ stop :: rest) front

/-- The back of a text is what stands behind the last `stop`. -/
inductive Back (stop : UInt8) : Bytes → Bytes → Prop where
  | whole {text : Bytes} (free : stop ∉ text) : Back stop text text
  | cut {back : Bytes} (rest : Bytes) (free : stop ∉ back) :
      Back stop (rest ++ stop :: back) back

/-- The line of an entry, part by part. -/
inductive Shows (entry : Entry) : Bytes → Prop where
  | parts {name file text : Bytes} (named : Named entry.severity name)
      (back : Back Byte.slash entry.file file) (front : Front 0 entry.text text) :
      Shows entry (name ++ ascii ":" ++ file ++ ascii "(" ++ ascii (toString entry.line) ++
        ascii "): " ++ text ++ [Byte.newline])

def Use.requested? : Use → Option Severity
  | .setThreshold requested => some requested
  | .log _ => none

/-- The threshold that was asked for last.  A log that was asked for none writes warnings. -/
def asked (uses : List Use) : Severity :=
  (uses.filterMap Use.requested?).getLast?.getD Severity.warning

def Mild (uses : List Use) : Prop :=
  ∀ entry, Use.log entry ∈ uses → entry.severity ≠ Severity.fatal

def Heard (requested severity : Severity) : Prop :=
  severity = Severity.fatal ∨ min Severity.fatal requested ≤ severity

/-- At the position an entry is logged that has to be written, and nothing fatal before it. -/
@[mk_iff]
structure Due (uses : List Use) (position : Nat) (entry : Entry) : Prop where
  logged : uses[position]? = some (.log entry)
  reached : Mild (uses.take position)
  heard : Heard (asked (uses.take position)) entry.severity

def ShownAt (uses : List Use) (position : Nat) (line : Bytes) : Prop :=
  ∃ entry, Due uses position entry ∧ Shows entry line

/-- What logging an entry does when `requested` was asked for last. -/
structure Handled (requested : Severity) (entry : Entry) (before after : State) : Prop where
  threshold : after.threshold = before.threshold
  aborted : after.aborted = true ↔ entry.severity = Severity.fatal
  written : Heard requested entry.severity →
    ∃ line, Shows entry line ∧ after.lines = before.lines ++ [line]
  dropped : ¬Heard requested entry.severity → after.lines = before.lines

variable {stop : UInt8} {text part : Bytes} {entry : Entry} {uses : List Use} {use : Use}

theorem name_of_outside {severity : Int} (outside : severity < 0 ∨ 3 < severity) :
    Severity.name severity = ascii "UNKNOWN" := by
  have notInfo : severity ≠ Severity.info := by unfold Severity.info; omega
  have notWarning : severity ≠ Severity.warning := by unfold Severity.warning; omega
  have notError : severity ≠ Severity.error := by unfold Severity.error; omega
  have notFatal : severity ≠ Severity.fatal := by unfold Severity.fatal; omega
  rw [Severity.name, if_neg notInfo, if_neg notWarning, if_neg notError, if_neg notFatal]

theorem named_iff {severity : Int} {name : Bytes} :
    Named severity name ↔ Severity.name severity = name := by
  constructor
  · intro named
    cases named with
    | unknown outside => exact name_of_outside outside
    | _ => rfl
  · rintro rfl
    by_cases outside : severity < 0 ∨ 3 < severity
    · rw [name_of_outside outside]
      exact .unknown outside
    · have inside : severity = 0 ∨ severity = 1 ∨ severity = 2 ∨ severity = 3 := by omega
      rcases inside with rfl | rfl | rfl | rfl
      · exact .info
      · exact .warning
      · exact .error
      · exact .fatal

theorem front_iff : Front stop text part ↔ text.takeWhile (· != stop) = part := by
  constructor
  · intro front
    cases front with
    | whole free => exact Bytes.takeWhile_of_notMem free
    | cut free rest => exact (Bytes.split_of_notMem free rest).1
  · intro taken
    obtain ⟨split, kept, ended⟩ := Bytes.split_iff.mp ⟨taken, rfl⟩
    have free : stop ∉ part := by
      intro member
      simpa using kept stop member
    cases dropped : text.dropWhile (· != stop) with
    | nil =>
        rw [dropped, List.append_nil] at split
        rw [split]
        exact .whole free
    | cons next rest =>
        rw [dropped] at split ended
        obtain rfl : next = stop := by simpa using ended
        rw [split]
        exact .cut free rest

theorem Front.reverse (front : Front stop text part) : Back stop text.reverse part.reverse := by
  cases front with
  | whole free => exact .whole (by simpa using free)
  | cut free rest =>
      have split : (part ++ stop :: rest).reverse = rest.reverse ++ stop :: part.reverse := by simp
      rw [split]
      exact .cut rest.reverse (by simpa using free)

theorem Back.reverse (back : Back stop text part) : Front stop text.reverse part.reverse := by
  cases back with
  | whole free => exact .whole (by simpa using free)
  | cut rest free =>
      have split : (rest ++ stop :: part).reverse = part.reverse ++ stop :: rest.reverse := by simp
      rw [split]
      exact .cut (by simpa using free) rest.reverse

theorem back_iff {path base : Bytes} : Back Byte.slash path base ↔ baseName path = base := by
  rw [baseName, List.reverse_eq_iff, ← front_iff]
  constructor
  · exact Back.reverse
  · intro front
    simpa using front.reverse

theorem zero_notMem_name (severity : Severity) : 0 ∉ severity.name := by
  unfold Severity.name
  split_ifs <;> decide

theorem zero_notMem_baseName {path : Bytes} (free : 0 ∉ path) : 0 ∉ baseName path := by
  intro member
  rw [baseName, List.mem_reverse] at member
  exact free (List.mem_reverse.mp ((List.takeWhile_sublist _).subset member))

theorem written_eq (path : 0 ∉ entry.file) :
    entry.written = entry.severity.name ++ ascii ":" ++ baseName entry.file ++ ascii "(" ++
      ascii (toString entry.line) ++ ascii "): " ++ Bytes.cutAtNul entry.text ++
        [Byte.newline] := by
  have free : 0 ∉ entry.severity.name ++ ascii ":" ++ baseName entry.file ++ ascii "(" ++
      Bytes.ofInt entry.line ++ ascii "): " := by
    simp only [List.mem_append, not_or]
    exact ⟨⟨⟨⟨⟨zero_notMem_name _, by decide⟩, zero_notMem_baseName path⟩, by decide⟩,
      Bytes.zero_notMem_ofInt _⟩, by decide⟩
  have file : Bytes.cutAtNul entry.file = entry.file := Bytes.takeWhile_of_notMem path
  rw [Entry.written, file, Bytes.cutAtNul_append free, Bytes.ofInt_eq]

theorem shows_iff (path : 0 ∉ entry.file) {line : Bytes} :
    Shows entry line ↔ entry.written = line := by
  rw [written_eq path]
  constructor
  · rintro ⟨named, back, front⟩
    rw [named_iff.mp named, back_iff.mp back, Bytes.cutAtNul, front_iff.mp front]
  · rintro rfl
    exact .parts (named_iff.mpr rfl) (back_iff.mpr rfl) (front_iff.mpr rfl)

theorem passes_iff_heard {threshold requested severity : Severity}
    (inForce : threshold = min Severity.fatal requested) :
    passes threshold severity = true ↔ Heard requested severity := by
  rw [inForce, passes, Heard, Bool.or_eq_true, decide_eq_true_eq, beq_iff_eq, or_comm]

theorem handled_step {state : State} {requested : Severity}
    (running : state.aborted = false)
    (inForce : state.threshold = min Severity.fatal requested) (path : 0 ∉ entry.file) :
    Handled requested entry state (state.step (.log entry)) := by
  rw [State.step_log running]
  constructor
  case threshold => rfl
  case aborted => simp
  case written =>
    intro heard
    refine ⟨entry.written, (shows_iff path).mpr rfl, ?_⟩
    exact if_pos ((passes_iff_heard inForce).mpr heard)
  case dropped =>
    intro unheard
    exact if_neg fun passed => unheard ((passes_iff_heard inForce).mp passed)

theorem asked_setThreshold (uses : List Use) (requested : Severity) :
    asked (uses ++ [.setThreshold requested]) = requested := by
  simp [asked, Use.requested?]

theorem asked_log (uses : List Use) (entry : Entry) :
    asked (uses ++ [.log entry]) = asked uses := by
  simp [asked, Use.requested?]

theorem mild_concat_iff : Mild (uses ++ [use]) ↔
    Mild uses ∧ ∀ entry, use = .log entry → entry.severity ≠ Severity.fatal := by
  simp only [Mild, List.mem_append, List.mem_singleton, or_imp, forall_and, eq_comm]

theorem running_iff_mild : (State.run {} uses).aborted = false ↔ Mild uses := by
  induction uses using List.reverseRecOn with
  | nil => exact iff_of_true rfl nofun
  | append_singleton uses use ih =>
      rw [State.run_concat, mild_concat_iff, ← ih]
      cases ended : (State.run {} uses).aborted with
      | true => simp [State.step_of_aborted ended, ended]
      | false =>
          cases use with
          | setThreshold requested => simp [State.step_setThreshold ended, ended]
          | log entry => simp [State.step_log ended]

theorem threshold_run (mild : Mild uses) :
    (State.run {} uses).threshold = min Severity.fatal (asked uses) := by
  induction uses using List.reverseRecOn with
  | nil => rfl
  | append_singleton uses use ih =>
      have before := (mild_concat_iff.mp mild).1
      have running := running_iff_mild.mpr before
      rw [State.run_concat]
      cases use with
      | setThreshold requested =>
          rw [State.step_setThreshold running, asked_setThreshold]
          exact Int.min_comm _ _
      | log entry =>
          rw [State.step_log running, asked_log]
          exact ih before

theorem handled_concat (mild : Mild uses) (path : 0 ∉ entry.file) :
    Handled (asked uses) entry (State.run {} uses) (State.run {} (uses ++ [.log entry])) := by
  rw [State.run_concat]
  exact handled_step (running_iff_mild.mpr mild) (threshold_run mild) path

theorem Due.lt_length {position : Nat} (due : Due uses position entry) :
    position < uses.length :=
  (List.getElem?_eq_some_iff.mp due.logged).1

theorem due_concat_iff {position : Nat} : Due (uses ++ [use]) position entry ↔
    Due uses position entry ∨
      position = uses.length ∧ use = .log entry ∧ Mild uses ∧
        Heard (asked uses) entry.severity := by
  rw [due_iff, due_iff]
  rcases Nat.lt_trichotomy position uses.length with before | rfl | after
  · rw [List.getElem?_append_left before, List.take_append_of_le_length before.le]
    simp [before.ne]
  · simp
  · have beyond : (uses ++ [use])[position]? = none :=
      List.getElem?_eq_none (by simpa using Nat.succ_le_of_lt after)
    simp [beyond, after.le, after.ne']

theorem lines_concat_of_due (path : 0 ∉ entry.file)
    (due : Due (uses ++ [use]) uses.length entry) :
    ∃ line, Shows entry line ∧
      (State.run {} (uses ++ [use])).lines = (State.run {} uses).lines ++ [line] := by
  rcases due_concat_iff.mp due with earlier | ⟨_, rfl, mild, heard⟩
  · exact absurd earlier.lt_length (Nat.lt_irrefl _)
  · exact (handled_concat mild path).written heard

theorem lines_concat_of_not_due (paths : ∀ entry, use = .log entry → 0 ∉ entry.file)
    (absent : ∀ entry, ¬Due (uses ++ [use]) uses.length entry) :
    (State.run {} (uses ++ [use])).lines = (State.run {} uses).lines := by
  cases ended : (State.run {} uses).aborted with
  | true => rw [State.run_concat, State.step_of_aborted ended]
  | false =>
      cases use with
      | setThreshold requested => rw [State.run_concat, State.step_setThreshold ended]
      | log entry =>
          have mild := running_iff_mild.mp ended
          apply (handled_concat mild (paths entry rfl)).dropped
          intro heard
          exact absent entry (due_concat_iff.mpr (.inr ⟨rfl, rfl, mild, heard⟩))

theorem exists_positions (paths : ∀ entry, Use.log entry ∈ uses → 0 ∉ entry.file) :
    ∃ positions : List Nat, positions.Pairwise (· < ·) ∧
      (∀ position, position ∈ positions ↔ ∃ entry, Due uses position entry) ∧
      List.Forall₂ (ShownAt uses) positions (State.run {} uses).lines := by
  induction uses using List.reverseRecOn with
  | nil =>
      refine ⟨[], .nil, ?_, .nil⟩
      intro position
      refine iff_of_false nofun ?_
      rintro ⟨entry, due⟩
      exact absurd due.lt_length (Nat.not_lt_zero _)
  | append_singleton uses use ih =>
      have earlierPaths : ∀ entry, Use.log entry ∈ uses → 0 ∉ entry.file :=
        fun entry member => paths entry (List.mem_append_left _ member)
      have path : ∀ entry, use = .log entry → 0 ∉ entry.file := by
        rintro entry rfl
        exact paths entry (by simp)
      obtain ⟨positions, sorted, due, shown⟩ := ih earlierPaths
      have further {position : Nat} {entry : Entry} (due : Due uses position entry) :
          Due (uses ++ [use]) position entry := due_concat_iff.mpr (.inl due)
      have stillShown : List.Forall₂ (ShownAt (uses ++ [use])) positions
          (State.run {} uses).lines :=
        shown.imp fun position line ⟨entry, due, shows⟩ => ⟨entry, further due, shows⟩
      -- Only the last position can be a new one.
      by_cases newly : ∃ entry, Due (uses ++ [use]) uses.length entry
      · obtain ⟨entry, new⟩ := newly
        have logged : use = .log entry := by simpa using new.logged
        obtain ⟨line, shows, lines⟩ := lines_concat_of_due (path entry logged) new
        refine ⟨positions ++ [uses.length], ?_, ?_, ?_⟩
        · rw [List.pairwise_append]
          refine ⟨sorted, List.pairwise_singleton _ _, ?_⟩
          intro position member last isLast
          obtain ⟨entry, earlier⟩ := (due position).mp member
          rw [List.mem_singleton.mp isLast]
          exact earlier.lt_length
        · intro position
          rw [List.mem_append, List.mem_singleton, due position]
          constructor
          · rintro (⟨entry, earlier⟩ | rfl)
            · exact ⟨entry, further earlier⟩
            · exact ⟨entry, new⟩
          · rintro ⟨entry, any⟩
            exact (due_concat_iff.mp any).imp (fun earlier => ⟨entry, earlier⟩) (·.1)
        · rw [lines]
          exact List.rel_append stillShown (.cons ⟨entry, new, shows⟩ .nil)
      · have absent : ∀ entry, ¬Due (uses ++ [use]) uses.length entry :=
          fun entry due => newly ⟨entry, due⟩
        rw [lines_concat_of_not_due path absent]
        refine ⟨positions, sorted, ?_, stillShown⟩
        intro position
        rw [due position]
        constructor
        · rintro ⟨entry, earlier⟩
          exact ⟨entry, further earlier⟩
        · rintro ⟨entry, any⟩
          rcases due_concat_iff.mp any with earlier | ⟨rfl, _⟩
          · exact ⟨entry, earlier⟩
          · exact absurd any (absent entry)

/-- Up to the first fatal entry the process comes to every use.  Each entry it comes to is handled
by the threshold asked for last, a fatal one ends the process when it is written, and the lines
show the entries that are due in their order. -/
theorem lines_of_uses (paths : ∀ entry, Use.log entry ∈ uses → 0 ∉ entry.file) :
    let after (count : Nat) := State.run {} (uses.take count)
    (∀ position, Mild (uses.take position) →
      (after position).threshold = min Severity.fatal (asked (uses.take position)) ∧
      (after position).aborted = false ∧
      ∀ entry, uses[position]? = some (.log entry) →
        Handled (asked (uses.take position)) entry (after position) (after (position + 1)) ∧
        (entry.severity = Severity.fatal → State.run {} uses = after (position + 1))) ∧
    ((State.run {} uses).aborted = true ↔
      ∃ entry, Use.log entry ∈ uses ∧ entry.severity = Severity.fatal) ∧
    ∃ positions : List Nat, positions.Pairwise (· < ·) ∧
      (∀ position, position ∈ positions ↔ ∃ entry, Due uses position entry) ∧
      List.Forall₂ (ShownAt uses) positions (State.run {} uses).lines := by
  intro after
  refine ⟨?_, ?_, exists_positions paths⟩
  · intro position mild
    refine ⟨threshold_run mild, running_iff_mild.mpr mild, ?_⟩
    intro entry logged
    have further : uses.take (position + 1) = uses.take position ++ [.log entry] := by
      rw [List.take_add_one, logged, Option.toList_some]
    have handled : Handled (asked (uses.take position)) entry (after position)
        (after (position + 1)) := by
      show Handled _ _ _ (State.run {} (uses.take (position + 1)))
      rw [further]
      exact handled_concat mild (paths entry (List.mem_of_getElem? logged))
    refine ⟨handled, ?_⟩
    intro fatal
    have split : State.run {} uses = (after (position + 1)).run (uses.drop (position + 1)) := by
      show _ = (State.run {} (uses.take (position + 1))).run _
      rw [← State.run_append, List.take_append_drop]
    rw [split, State.run_of_aborted (handled.aborted.mpr fatal)]
  · rw [← Bool.not_eq_false, running_iff_mild]
    simp [Mild]

/-- A threshold above and one below all names, a text with a NUL, and a use behind the end. -/
theorem lines_of_uses_fatal :
    let low : Entry := ⟨ascii "src/a.cc", 12, -1, ascii "low" ++ 0 :: ascii "cut"⟩
    let last : Entry := ⟨ascii "b.cc", -7, 3, ascii "end"⟩
    let uses : List Use :=
      [.setThreshold 9, .log { low with severity := 2 }, .setThreshold (-5), .log low, .log last,
        .log low]
    (∀ entry, Use.log entry ∈ uses → 0 ∉ entry.file) ∧ Mild (uses.take 4) ∧
      Handled (-5) last (State.run {} (uses.take 4)) (State.run {} (uses.take 5)) ∧
      State.run {} uses = State.run {} (uses.take 5) ∧
      (State.run {} uses).lines =
        [ascii "UNKNOWN:a.cc(12): low\n", ascii "FATAL:b.cc(-7): end\n"] := by
  intro low last uses
  have paths : ∀ entry, Use.log entry ∈ uses → 0 ∉ entry.file := by
    intro entry member
    simp only [uses, List.mem_cons, reduceCtorEq, Use.log.injEq, false_or, List.not_mem_nil,
      or_false] at member
    rcases member with rfl | rfl | rfl | rfl <;> decide
  have mild : Mild (uses.take 4) := by
    intro entry member
    simp only [uses, List.take, List.mem_cons, reduceCtorEq, Use.log.injEq, false_or,
      List.not_mem_nil, or_false] at member
    rcases member with rfl | rfl <;> decide
  obtain ⟨handled, ended⟩ := ((lines_of_uses paths).1 4 mild).2.2 last rfl
  exact ⟨paths, mild, handled, ended rfl, by decide⟩

end TradeLocal.Log
