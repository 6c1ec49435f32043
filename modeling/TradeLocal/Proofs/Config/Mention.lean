import Mathlib.Data.List.Infix
import TradeLocal.Environment
import TradeLocal.Proofs.Expansion.Mention
import TradeLocal.Settings

/-!
# What a configuration file can see

A file sees the variables that it mentions and no others: two environments that agree on these
give the same assignments, error and notes.  The values of a line are cut from it at blanks,
quotes and ends, so what they mention is mentioned by the file.
-/

namespace TradeLocal

open Bytes

namespace Bytes

theorem slice_trimRight (text : Bytes) : Slice (trimRight text) text := by
  obtain ⟨spaces, split, allSpace⟩ := trimRight_append text
  refine ⟨[], spaces, split.symm, ?_⟩
  cases spaces with
  | nil => exact EndsName.nil
  | cons byte rest => exact .cons (isName_eq_false_of_isSpace (allSpace byte (by simp))) rest

theorem slice_trim (text : Bytes) : Slice (trim text) text :=
  (slice_trimRight _).trans (Slice.dropWhile _ text)

theorem slice_of_mem_splitOn {text line : Bytes} (member : line ∈ splitOn Byte.newline text) :
    Slice line text := by
  obtain ⟨before, after, split, ended⟩ := exists_of_mem_splitOn member
  refine ⟨before, after, split, ?_⟩
  cases after with
  | nil => exact EndsName.nil
  | cons byte rest =>
      obtain rfl : byte = Byte.newline := by simpa using ended
      exact .cons (by decide) rest

end Bytes

namespace Config

namespace Line

theorem slice_dropExport (line : Bytes) : Slice (dropExport line) line := by
  rw [dropExport]
  split
  · exact (Slice.dropWhile _ _).trans (Slice.dropWhile _ line)
  · exact Slice.of_append (List.nil_append line)

theorem slice_of_readValue {text value tail : Bytes}
    (read : readValue text = some (.expandable value, tail)) : Slice value text := by
  cases text with
  | nil =>
      obtain ⟨rfl, rfl⟩ : [] = value ∧ [] = tail := by simpa [readValue] using read
      exact Slice.of_append (List.nil_append [])
  | cons first rest =>
      rw [readValue] at read
      split at read
      · next quoted =>
          have quotes : ∀ byte, Byte.isName byte = true → (byte != first) = true := by
            intro byte name
            rw [bne_iff_ne]
            rintro rfl
            simp only [isQuote, Bool.or_eq_true, beq_iff_eq] at quoted
            rcases quoted with rfl | rfl <;> exact absurd name (by decide)
          split at read
          · cases read
          · split at read
            · cases read
            · obtain ⟨rfl, _⟩ : rest.takeWhile (· != first) = value ∧ _ = tail := by
                simpa using read
              exact (Slice.takeWhile rest quotes).trans (Slice.of_append List.singleton_append)
      · obtain ⟨rfl, _⟩ : (first :: rest).takeWhile (!Byte.isBlank ·) = value ∧ _ = tail := by
          simpa only [Option.some.injEq, Prod.mk.injEq, Value.expandable.injEq] using read
        exact Slice.takeWhile _ fun byte => not_isBlank_of_isName

theorem slice_of_ofStatement {statement name value : Bytes}
    (read : ofStatement statement = .assignment name (.expandable value)) :
    Slice value statement := by
  rw [ofStatement] at read
  split at read
  · cases read
  · next equals text split =>
      have behind : Slice text statement := by
        have suffix := Slice.dropWhile (· != Byte.equals) statement
        rw [split] at suffix
        exact (Slice.of_append List.singleton_append).trans suffix
      split at read
      · rw [ofAssignment] at read
        split at read
        · cases read
        · next found tail written =>
            split at read
            · obtain ⟨_, rfl⟩ : _ = name ∧ found = .expandable value := by simpa using read
              exact (slice_of_readValue written).trans behind
            · cases read
      · cases read

theorem slice_of_ofText {line name value : Bytes}
    (read : ofText line = .assignment name (.expandable value)) : Slice value line := by
  have inner : Slice value (trim line) := by
    rw [ofText] at read
    cases trimmed : trim line with
    | nil => simp [trimmed, ofTrimmed] at read
    | cons first rest =>
        rw [trimmed, ofTrimmed] at read
        split at read
        · cases read
        · exact (slice_of_ofStatement read).trans (slice_dropExport _)
  exact inner.trans (slice_trim line)

theorem effect_congr {first second : Variables} {line : Bytes}
    (agree : Set.EqOn first second (mentioned line)) :
    (ofText line).effect first = (ofText line).effect second := by
  cases read : ofText line with
  | assignment name value =>
      have same : value.expand first = value.expand second := by
        cases value with
        | literal text => rfl
        | expandable text =>
            exact Expansion.expand_congr (agree.mono (slice_of_ofText read).mentioned_subset)
      rw [effect, effect, same]
  | _ => rfl

end Line

theorem Assignments.shadowing_eqOn {first second : Variables} {names : Set Bytes}
    (assignments : Assignments) (agree : Set.EqOn first second names) :
    Set.EqOn (assignments.shadowing first) (assignments.shadowing second) names := by
  intro name member
  rw [shadowing, shadowing, agree member]

theorem parseLines_congr {first second : Variables} {lines : List Bytes}
    (agree : ∀ line ∈ lines, Set.EqOn first second (mentioned line)) (number : Nat)
    (assignments : Assignments) :
    parseLines first number assignments lines = parseLines second number assignments lines := by
  induction lines generalizing number assignments with
  | nil => rfl
  | cons line rest ih =>
      have effect := Line.effect_congr (assignments.shadowing_eqOn (agree line (by simp)))
      have later := ih fun other member => agree other (by simp [member])
      rw [parseLines, parseLines, effect]
      simp only [later]

theorem parse_congr {first second : Variables} {contents : Bytes}
    (agree : Set.EqOn first second (mentioned contents)) :
    parse first contents = parse second contents := by
  apply parseLines_congr
  intro line member
  exact agree.mono (slice_of_mem_splitOn member).mentioned_subset

end Config

namespace Settings

open Config

def names : Set Bytes :=
  {ascii "TDH", ascii "TDPY", ascii "TDLOC_SHELL", ascii "TDLOC_VERBOSE"}

theorem baseOf_congr {first second : Variables} (agree : Set.EqOn first second names) :
    baseOf first = baseOf second := by
  have same : first Setting.baseDirectory = second Setting.baseDirectory :=
    agree (by simp [names, Setting.baseDirectory])
  rw [baseOf, baseOf, same]

theorem lookup_congr {first second : Variables} {name : Bytes} (same : first name = second name)
    (file : Assignments) : lookup first file name = lookup second file name := by
  rw [lookup, lookup, same]

theorem isOn_congr {first second : Variables} {name : Bytes} (same : first name = second name)
    (file : Assignments) : isOn first file name = isOn second file name := by
  rw [isOn, isOn, lookup_congr same]

theorem resolve_congr {first second : Variables} (agree : Set.EqOn first second names)
    (base : Bytes) (file : Assignments) : resolve first base file = resolve second base file := by
  have program : first Setting.program = second Setting.program :=
    agree (by simp [names, Setting.program])
  have shellMode : first Setting.shellMode = second Setting.shellMode :=
    agree (by simp [names, Setting.shellMode])
  have verbose : first Setting.verbose = second Setting.verbose :=
    agree (by simp [names, Setting.verbose])
  rw [resolve, resolve, lookup_congr program, isOn_congr shellMode, isOn_congr verbose]

theorem load_congr {first second : Variables} {answer : Bytes → FileAnswer}
    (agree : Set.EqOn first second names)
    (agreeOnFile : ∀ contents, answer (configPath first) = .contents contents →
      Set.EqOn first second (mentioned contents)) :
    load first answer = load second answer := by
  have base := baseOf_congr agree
  have path : configPath first = configPath second := by rw [configPath, configPath, base]
  have file : Config.load first answer (configPath first) =
      Config.load second answer (configPath first) := by
    rw [Config.load, Config.load]
    cases found : answer (configPath first) with
    | contents text => simp only [parse_congr (agreeOnFile text found)]
    | _ => rfl
  have resolved : resolve first (baseOf first) = resolve second (baseOf first) :=
    funext (resolve_congr agree (baseOf first))
  rw [load, load, ← path, ← base, file, resolved]

/-- A file is parsed alike in environments that agree on the names it mentions, and the
settings are the same, with all that is told about them, if the environments also agree on the
variables that hold settings. -/
theorem load_eq_of_eqOn (first second : Variables) :
    (∀ contents, Set.EqOn first second (mentioned contents) →
      parse first contents = parse second contents) ∧
    ∀ answer, Set.EqOn first second names →
      (∀ contents, answer (configPath first) = .contents contents →
        Set.EqOn first second (mentioned contents)) →
      load first answer = load second answer :=
  ⟨fun _ => parse_congr, fun _ => load_congr⟩

/-- A name that only begins like a mentioned one is not seen. -/
theorem load_eq_of_unmentioned :
    let contents := ascii "TDPY=$A$\x7bB:-$\x7bTDH\x7d\x7d"
    let first : Variables := fun _ => none
    let second : Variables := Variables.ofPairs [(ascii "AB", ascii "x"), (ascii "B_", ascii "y")]
    (Set.EqOn first second (mentioned contents) ∧ Set.EqOn first second names) ∧
      parse first contents = parse second contents ∧
      load first (fun _ => .contents contents) = load second (fun _ => .contents contents) := by
  intro contents first second
  have agree : Set.EqOn first second (mentioned contents) := by
    intro name member
    have unseen : ∀ other, ¬other <:+: contents → (name == other) = false := by
      intro other absent
      rw [beq_eq_false_iff_ne]
      rintro rfl
      exact absent (infix_of_mem_mentioned member)
    simp [first, second, Variables.ofPairs, List.lookup_cons, unseen (ascii "AB") (by decide),
      unseen (ascii "B_") (by decide)]
  have agreeOnNames : Set.EqOn first second names := by
    rintro name (rfl | rfl | rfl | rfl) <;> rfl
  refine ⟨⟨agree, agreeOnNames⟩, (load_eq_of_eqOn first second).1 contents agree, ?_⟩
  apply (load_eq_of_eqOn first second).2 _ agreeOnNames
  rintro text ⟨⟩
  exact agree

end Settings

end TradeLocal
