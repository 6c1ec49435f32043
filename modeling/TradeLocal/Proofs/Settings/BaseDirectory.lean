import Mathlib.Logic.Function.Basic
import TradeLocal.Proofs.Expansion.Meaning
import TradeLocal.Proofs.Settings.Precedence

/-!
# The base directory as a configuration file sees it

The base directory in use has a default.  A configuration file looks the variable up among
its own assignments and in the environment, where no default is known: a file that has not
assigned it sees the directory in use if the environment gives one, and nothing otherwise.
-/

namespace TradeLocal

namespace Expansion

variable (values : Variables) {name after : Bytes}

theorem expand_named_append (valid : Bytes.isVariableName name = true)
    (ended : (after.head?.all fun next => !Byte.isName next) = true) :
    expand values (Byte.dollar :: (name ++ after)) =
      (expand values after).map ((values name).getD [] ++ ·) := by
  exact expand_of_next (next_named valid ended) rfl

theorem expand_braced_append (valid : Bytes.isVariableName name = true) :
    expand values (Byte.dollar :: Byte.openBrace :: (name ++ Byte.closeBrace :: after)) =
      (expand values after).map ((values name).getD [] ++ ·) := by
  have passes := passes_name (Bytes.all_isName_of_isVariableName valid) (Byte.closeBrace :: after)
  have value : (Piece.braced name).value values = some ((values name).getD []) := by
    simp [Piece.value, Token.readBody_name valid, Default.applies]
  exact expand_of_next (next_braced passes) value

theorem expand_ifEmpty {rest body word value : Bytes}
    (next : Piece.next Byte.dollar rest = some (.braced body, []))
    (read : readBody body = some (name, .ifEmpty word))
    (evaluates : expand values word = some value) :
    expand values (Byte.dollar :: rest) =
      some ((Settings.preferred (values name) none).getD value) := by
  rw [expand_cons, next]
  rcases given : values name with _ | _ | ⟨first, others⟩ <;>
    simp [Piece.value, read, Default.applies, Default.word?, given, evaluates, Settings.preferred]

theorem expand_plain {text : Bytes}
    (plain : ∀ byte ∈ text, byte ≠ Byte.backtick ∧ byte ≠ Byte.backslash ∧ byte ≠ Byte.dollar) :
    expand values text = some text := by
  induction text with
  | nil => exact expand_nil values
  | cons byte rest ih =>
      obtain ⟨notBacktick, notBackslash, notDollar⟩ := plain byte (by simp)
      have later := ih fun other member => plain other (by simp [member])
      rw [expand_byte values notBacktick notBackslash notDollar, later, Option.map_some]

end Expansion

namespace Settings

open Config Expansion

/-- The environment gives a base directory. -/
def GivesBase (environment : Variables) : Prop :=
  (environment (ascii "TDH")).getD [] ≠ []

instance (environment : Variables) : Decidable (GivesBase environment) :=
  inferInstanceAs (Decidable (_ ≠ _))

/-- What the variable of the base directory is to a file that has not assigned it. -/
def seenBase (environment : Variables) : Bytes :=
  if GivesBase environment then base environment else []

/-- A line that names a program in the base directory. -/
def programInBase : Bytes :=
  ascii "export TDPY=$\x7bTDPY:-$\x7bTDH\x7d/trade.py\x7d"

variable {environment : Variables}

theorem getD_eq_seenBase (environment : Variables) :
    (environment (ascii "TDH")).getD [] = seenBase environment := by
  rcases given : environment (ascii "TDH") with _ | _ | ⟨first, rest⟩ <;>
    simp [seenBase, GivesBase, base, preferred, given]

theorem seenBase_eq_base_iff : seenBase environment = base environment ↔ GivesBase environment := by
  rw [seenBase]
  split
  · next given => exact iff_of_true rfl given
  · next missing => exact iff_of_false (base_ne_nil environment).symm missing

theorem getD_shadowing {assignments : Assignments}
    (unassigned : assignments.get? (ascii "TDH") = none) :
    ((assignments.shadowing environment) (ascii "TDH")).getD [] = seenBase environment := by
  rw [Assignments.shadowing, unassigned, Option.none_or, getD_eq_seenBase]

/-- The environment in which the base directory in use is given. -/
def withBase (environment : Variables) : Variables :=
  Function.update environment (ascii "TDH") (some (base environment))

theorem withBase_eq_self (given : GivesBase environment) : withBase environment = environment := by
  rw [withBase, Function.update_eq_self_iff, ← seenBase_eq_base_iff.mpr given, ← getD_eq_seenBase]
  cases value : environment (ascii "TDH") with
  | none => simp [GivesBase, value] at given
  | some directory => rfl

theorem expand_reference (values : Variables) {after : Bytes}
    (ended : (after.head?.all fun next => !Byte.isName next) = true) :
    expand values (ascii "$TDH" ++ after) =
      (expand values after).map ((values (ascii "TDH")).getD [] ++ ·) := by
  have text : ascii "$TDH" ++ after = Byte.dollar :: (ascii "TDH" ++ after) := rfl
  rw [text, expand_named_append values rfl ended]

theorem expand_bracedReference (values : Variables) (after : Bytes) :
    expand values (ascii "$\x7bTDH\x7d" ++ after) =
      (expand values after).map ((values (ascii "TDH")).getD [] ++ ·) := by
  have text : ascii "$\x7bTDH\x7d" ++ after =
      Byte.dollar :: Byte.openBrace :: (ascii "TDH" ++ Byte.closeBrace :: after) := rfl
  rw [text, expand_braced_append values rfl]

theorem result_parse_copy (environment : Variables) :
    (parse environment (ascii "A=$TDH")).result =
      .ok (({} : Assignments).set (ascii "A") (seenBase environment)) := by
  have lines : Bytes.splitOn Byte.newline (ascii "A=$TDH") = [ascii "A=$TDH"] := by
    decide +kernel
  have line : Line.ofText (ascii "A=$TDH") =
      .assignment (ascii "A") (.expandable (ascii "$TDH" ++ [])) := by decide +kernel
  have value : expand environment (ascii "$TDH" ++ []) = some (seenBase environment) := by
    rw [expand_reference environment rfl, getD_eq_seenBase, expand_nil, Option.map_some,
      List.append_nil]
  simp only [parse, lines, parseLines, line, Line.effect, Value.expand,
    Assignments.shadowing_empty, value]

/-- Every file reads alike in the two environments only if they are the same. -/
theorem parse_withBase_iff :
    (∀ contents, parse (withBase environment) contents = parse environment contents) ↔
      GivesBase environment := by
  constructor
  · intro same
    have results := congrArg Parsed.result (same (ascii "A=$TDH"))
    rw [result_parse_copy, result_parse_copy, ← getD_eq_seenBase (withBase environment), withBase,
      Function.update_self] at results
    have values := congrArg (Assignments.get? · (ascii "A")) (Except.ok.inj results)
    simp only [Assignments.get?_set, if_true, Option.getD_some, Option.some.injEq] at values
    exact seenBase_eq_base_iff.mp values.symm
  · intro given contents
    rw [withBase_eq_self given]

theorem preferred_eq_none_iff (value : Option Bytes) :
    preferred value none = none ↔ value.getD [] = [] := by
  rcases value with _ | _ | ⟨first, rest⟩ <;> simp [preferred]

theorem effect_programInBase (values : Variables) :
    (Line.ofText programInBase).effect values =
      .set (ascii "TDPY") ((preferred (values (ascii "TDPY")) none).getD
        ((values (ascii "TDH")).getD [] ++ ascii "/trade.py")) := by
  have line : Line.ofText programInBase =
      .assignment (ascii "TDPY")
        (.expandable (Byte.dollar :: ascii "\x7bTDPY:-$\x7bTDH\x7d/trade.py\x7d")) := by
    decide +kernel
  have next : Piece.next Byte.dollar (ascii "\x7bTDPY:-$\x7bTDH\x7d/trade.py\x7d") =
      some (.braced (ascii "TDPY:-$\x7bTDH\x7d/trade.py"), []) := by decide +kernel
  have read : readBody (ascii "TDPY:-$\x7bTDH\x7d/trade.py") =
      some (ascii "TDPY", .ifEmpty (ascii "$\x7bTDH\x7d" ++ ascii "/trade.py")) := by
    decide +kernel
  have word : expand values (ascii "$\x7bTDH\x7d" ++ ascii "/trade.py") =
      some ((values (ascii "TDH")).getD [] ++ ascii "/trade.py") := by
    rw [expand_bracedReference, expand_plain values (by decide +kernel), Option.map_some]
  simp only [line, Line.effect, Value.expand, expand_ifEmpty values next read word]

theorem result_parse_programInBase (unset : (environment (ascii "TDPY")).getD [] = [])
    {ending : Bytes} (ended : ending = [] ∨ ending = [Byte.newline]) :
    (parse environment (programInBase ++ ending)).result =
      .ok (({} : Assignments).set (ascii "TDPY") (seenBase environment ++ ascii "/trade.py")) := by
  have effect := effect_programInBase environment
  rw [(preferred_eq_none_iff _).mpr unset, Option.getD_none, getD_eq_seenBase] at effect
  rcases ended with rfl | rfl
  · have lines : Bytes.splitOn Byte.newline (programInBase ++ []) = [programInBase] := by
      decide +kernel
    simp only [parse, lines, parseLines, Assignments.shadowing_empty, effect]
  · have lines : Bytes.splitOn Byte.newline (programInBase ++ [Byte.newline]) =
        [programInBase, []] := by decide +kernel
    have blank (values : Variables) : (Line.ofText []).effect values = .nothing := rfl
    simp only [parse, lines, parseLines, Assignments.shadowing_empty, effect, blank]

theorem preferred_some (value : Option Bytes) {text : Bytes} (nonempty : text ≠ []) :
    preferred value (some text) = some ((preferred value none).getD text) := by
  obtain ⟨first, rest, rfl⟩ := List.exists_cons_of_ne_nil nonempty
  rcases value with _ | _ | ⟨other, others⟩ <;> rfl

/-- A file that assigns the program and no switch decides the program at most. -/
theorem expected_of_program {final : Variables} {program : Bytes} (nonempty : program ≠ [])
    (assigned : final (ascii "TDPY") = some program)
    (shellMode : final (ascii "TDLOC_SHELL") = none)
    (verbose : final (ascii "TDLOC_VERBOSE") = none) :
    expected environment final =
      { expected environment fun _ => none with
        program := (preferred (environment (ascii "TDPY")) none).getD program } := by
  rw [expected, assigned, shellMode, verbose, preferred_some _ nonempty, Option.getD_some]
  rfl

theorem expected_program (unset : (environment (ascii "TDPY")).getD [] = []) {program : Bytes}
    (nonempty : program ≠ []) :
    expected environment (({} : Assignments).set (ascii "TDPY") program).get? =
      { expected environment fun _ => none with program } := by
  rw [expected_of_program nonempty rfl rfl rfl, (preferred_eq_none_iff _).mpr unset,
    Option.getD_none]

/-- Behind the lines of a file that has not assigned the base directory, a value sees what the
environment gives.  This is the directory in use, and every file reads as if it were given,
exactly when the environment gives one; without one, the program that the file names is
looked for in the root. -/
theorem seen_base (environment : Variables) :
    (∀ (assignments : Assignments) (after : Bytes), assignments.get? (ascii "TDH") = none →
      let values := assignments.shadowing environment
      ((after.head?.all fun next => !Byte.isName next) = true →
        expand values (ascii "$TDH" ++ after) =
          (expand values after).map (seenBase environment ++ ·)) ∧
      expand values (ascii "$\x7bTDH\x7d" ++ after) =
        (expand values after).map (seenBase environment ++ ·)) ∧
    (seenBase environment = base environment ↔ GivesBase environment) ∧
    ((∀ contents, parse (withBase environment) contents = parse environment contents) ↔
      GivesBase environment) ∧
    ∀ answer ending, (environment (ascii "TDPY")).getD [] = [] →
      (ending = [] ∨ ending = [Byte.newline]) →
      answer (inside (base environment) (ascii "config.sh")) =
        .contents (programInBase ++ ending) →
      (load environment answer).result =
        .ok { expected environment fun _ => none with
          program := seenBase environment ++ ascii "/trade.py" } := by
  refine ⟨?_, seenBase_eq_base_iff, parse_withBase_iff, ?_⟩
  · intro assignments after unassigned values
    rw [← getD_shadowing unassigned]
    exact ⟨expand_reference values, expand_bracedReference values after⟩
  · intro answer ending unset ended given
    rw [← configPath_eq] at given
    have found : (answer (configPath environment)).text? = some (programInBase ++ ending) := by
      rw [given]
      rfl
    have nonempty : seenBase environment ++ ascii "/trade.py" ≠ [] := by simp [ascii]
    rw [load_of_parse found (result_parse_programInBase unset ended),
      expected_program unset nonempty]

/-- A program in the root is run instead of the one in the current directory. -/
theorem seen_base_missing :
    let contents := programInBase ++ [Byte.newline]
    (load (fun _ => none) fun _ => .contents contents).result =
      .ok { baseDirectory := ascii ".", program := ascii "/trade.py" } := by
  intro contents
  have loaded := (seen_base fun _ => none).2.2.2 (fun _ => .contents contents) [Byte.newline] rfl
    (.inr rfl) rfl
  rw [loaded]
  decide +kernel

/-- The program that the file names is not the one in the directory in use for every
environment. -/
theorem not_program_in_base :
    ¬∀ (environment : Variables) (answer : Bytes → FileAnswer),
      (environment (ascii "TDPY")).getD [] = [] →
      answer (inside (base environment) (ascii "config.sh")) =
        .contents (programInBase ++ [Byte.newline]) →
      (load environment answer).result.map Settings.program =
        .ok (base environment ++ ascii "/trade.py") := by
  intro claimed
  have loaded := claimed (fun _ => none) (fun _ => .contents (programInBase ++ [Byte.newline]))
    rfl rfl
  revert loaded
  decide +kernel

end Settings

end TradeLocal
