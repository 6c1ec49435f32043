import TradeLocal.Proofs.Config.Accounting
import TradeLocal.Proofs.Config.OpenQuote
import TradeLocal.Proofs.Settings.BaseDirectory

/-!
# Files of defaults

A configuration file can say itself what the base directory and the program are without it, for
the scripts that source it.  The settings have the same defaults, computed in another way: the file
expands nested words, with its own assignments before those of the environment, and the settings
fall back and join a path.  A file that assigns nothing else changes nothing.
-/

namespace TradeLocal

namespace Config

theorem Line.ofText_congr {line other : Bytes} (same : Bytes.trim line = Bytes.trim other) :
    ofText line = ofText other := by
  rw [ofText, same, ofText]

end Config

namespace Settings

open Config Expansion

def defaultBase : Bytes :=
  ascii "export TDH=$\x7bTDH:-.\x7d"

/-- Only two of the lines can assign anything in this environment: one the base directory, and one
further down the program in it, each unless it has a value. -/
structure AssignsDefaults (environment : Variables) (lines : List Bytes) (first second : Nat) :
    Prop where
  order : first < second
  baseLine : (lines[first]?).map Bytes.trim = some defaultBase
  programLine : (lines[second]?).map Bytes.trim = some programInBase
  only : ∀ position, Assigned environment lines position → position = first ∨ position = second

/-- The program that the two lines assign. -/
def assignedProgram (environment : Variables) : Bytes :=
  (preferred (environment (ascii "TDPY")) none).getD (base environment ++ ascii "/trade.py")

def assignedBase (environment : Variables) : Assignments :=
  ({} : Assignments).set (ascii "TDH") (base environment)

def assignedBoth (environment : Variables) : Assignments :=
  (assignedBase environment).set (ascii "TDPY") (assignedProgram environment)

/-- What is assigned in front of a position, if the lines at two positions assign. -/
def assignedBefore (environment : Variables) (first second position : Nat) : Assignments :=
  if position ≤ first then {}
  else if position ≤ second then assignedBase environment
  else assignedBoth environment

variable {environment : Variables} {answer : Bytes → FileAnswer} {lines : List Bytes}
  {first second position : Nat}

theorem effect_defaultBase (values : Variables) :
    (Line.ofText defaultBase).effect values = .set (ascii "TDH") (base values) := by
  have line : Line.ofText defaultBase =
      .assignment (ascii "TDH") (.expandable (Byte.dollar :: ascii "\x7bTDH:-.\x7d")) := by
    decide +kernel
  have next : Piece.next Byte.dollar (ascii "\x7bTDH:-.\x7d") =
      some (.braced (ascii "TDH:-."), []) := by decide +kernel
  have read : readBody (ascii "TDH:-.") = some (ascii "TDH", .ifEmpty (ascii ".")) := by
    decide +kernel
  have word : expand values (ascii ".") = some (ascii ".") :=
    expand_plain values (by decide +kernel)
  simp only [line, Line.effect, Value.expand, expand_ifEmpty values next read word]
  rfl

theorem effect_programInBase_of_defaultBase (environment : Variables) :
    (Line.ofText programInBase).effect ((assignedBase environment).shadowing environment) =
      .set (ascii "TDPY") (assignedProgram environment) := by
  have assigned : ((assignedBase environment).shadowing environment) (ascii "TDH") =
      some (base environment) := rfl
  have unassigned : ((assignedBase environment).shadowing environment) (ascii "TDPY") =
      environment (ascii "TDPY") := rfl
  rw [effect_programInBase, assigned, unassigned, Option.getD_some, assignedProgram]

theorem assignedBefore_of_le (front : position ≤ first) :
    assignedBefore environment first second position = {} := by
  rw [assignedBefore, if_pos front]

theorem assignedBefore_between (behind : first < position) (front : position ≤ second) :
    assignedBefore environment first second position = assignedBase environment := by
  rw [assignedBefore, if_neg (Nat.not_le_of_lt behind), if_pos front]

theorem assignedBefore_of_lt (order : first < second) (behind : second < position) :
    assignedBefore environment first second position = assignedBoth environment := by
  rw [assignedBefore, if_neg (Nat.not_le_of_lt (Nat.lt_trans order behind)),
    if_neg (Nat.not_le_of_lt behind)]

theorem assignedBefore_succ (notFirst : position ≠ first) (notSecond : position ≠ second) :
    assignedBefore environment first second (position + 1) =
      assignedBefore environment first second position := by
  have firstSide : position + 1 ≤ first ↔ position ≤ first := by omega
  have secondSide : position + 1 ≤ second ↔ position ≤ second := by omega
  simp only [assignedBefore, firstSide, secondSide]

/-- Each line makes what is assigned in front of it what is assigned in front of the next one. -/
theorem AssignsDefaults.after? {line : Bytes}
    (defaults : AssignsDefaults environment lines first second)
    (place : lines[position]? = some line) (closed : Closed line)
    (read : (parseLines environment 1 {} (lines.take position)).result =
      .ok (assignedBefore environment first second position)) :
    ((Line.ofText line).effect
        ((assignedBefore environment first second position).shadowing environment)).after?
          (assignedBefore environment first second position) =
      some (assignedBefore environment first second (position + 1)) := by
  have order := defaults.order
  by_cases atFirst : position = first
  · subst atFirst
    have text : Bytes.trim line = defaultBase := by simpa [place] using defaults.baseLine
    have same : Line.ofText line = Line.ofText defaultBase :=
      Line.ofText_congr (text.trans (by decide +kernel))
    rw [same, assignedBefore_of_le (Nat.le_refl position), Assignments.shadowing_empty,
      effect_defaultBase, assignedBefore_between (Nat.lt_succ_self position) order]
    rfl
  by_cases atSecond : position = second
  · subst atSecond
    have text : Bytes.trim line = programInBase := by simpa [place] using defaults.programLine
    have same : Line.ofText line = Line.ofText programInBase :=
      Line.ofText_congr (text.trans (by decide +kernel))
    rw [same, assignedBefore_between order (Nat.le_refl position),
      effect_programInBase_of_defaultBase, assignedBefore_of_lt order (Nat.lt_succ_self position)]
    rfl
  · rw [assignedBefore_succ atFirst atSecond]
    cases effect : (Line.ofText line).effect
        ((assignedBefore environment first second position).shadowing environment) with
    | nothing => rfl
    | skip reason => rfl
    | set name value =>
        have two := defaults.only position ⟨name, value, line, _, place, read, effect⟩
        omega
    | fail quote name => exact absurd ⟨quote, name, Line.effect_eq_fail_iff.mp effect⟩ closed

theorem AssignsDefaults.result_take (defaults : AssignsDefaults environment lines first second)
    (closed : ∀ line ∈ lines, Closed line) (within : position ≤ lines.length) :
    (parseLines environment 1 {} (lines.take position)).result =
      .ok (assignedBefore environment first second position) := by
  induction position with
  | zero => rfl
  | succ position ih =>
      have place : lines[position]? = some lines[position] := List.getElem?_eq_getElem within
      have further : lines.take (position + 1) = lines.take position ++ [lines[position]] := by
        rw [List.take_add_one, place, Option.toList_some]
      have read := ih (Nat.le_of_lt within)
      rw [further]
      apply result_parseLines_concat.mpr
      exact ⟨_, read, defaults.after? place (closed _ (List.getElem_mem within)) read⟩

theorem AssignsDefaults.result (defaults : AssignsDefaults environment lines first second)
    (closed : ∀ line ∈ lines, Closed line) :
    (parseLines environment 1 {} lines).result = .ok (assignedBoth environment) := by
  obtain ⟨line, place, -⟩ := Option.map_eq_some_iff.mp defaults.programLine
  have within : second < lines.length := (List.getElem?_eq_some_iff.mp place).1
  have whole := defaults.result_take closed (Nat.le_refl lines.length)
  rwa [List.take_length, assignedBefore_of_lt defaults.order within] at whole

theorem text?_configPath {contents : Bytes}
    (given : answer (inside (base environment) (ascii "config.sh")) = .contents contents) :
    (answer (configPath environment)).text? = some contents := by
  rw [configPath_eq, given]
  rfl

theorem load_missing (environment : Variables) :
    (load environment fun _ => .missing).result = .ok (expected environment fun _ => none) :=
  load_of_idle (.inl rfl)

theorem assignedProgram_ne_nil (environment : Variables) : assignedProgram environment ≠ [] := by
  rw [assignedProgram]
  rcases environment (ascii "TDPY") with _ | _ | ⟨first, rest⟩ <;> simp [preferred, base_ne_nil]

theorem load_of_assignsDefaults {contents : Bytes}
    (given : answer (inside (base environment) (ascii "config.sh")) = .contents contents)
    (defaults : AssignsDefaults environment (Bytes.splitOn Byte.newline contents) first second)
    (closed : ∀ line ∈ Bytes.splitOn Byte.newline contents, Closed line) :
    (load environment answer).result =
      .ok { expected environment fun _ => none with program := assignedProgram environment } := by
  have read : (parse environment contents).result = .ok (assignedBoth environment) :=
    defaults.result closed
  have assigned : (assignedBoth environment).get? (ascii "TDPY") =
      some (assignedProgram environment) := rfl
  -- A value of the environment went into the assignment, and is preferred to it as well.
  have settled : (preferred (environment (ascii "TDPY")) none).getD (assignedProgram environment) =
      assignedProgram environment := by
    rw [assignedProgram]
    cases preferred (environment (ascii "TDPY")) none <;> rfl
  rw [load_of_parse (text?_configPath given) read,
    expected_of_program (assignedProgram_ne_nil environment) assigned rfl rfl, settled]

theorem getLast?_base_ne_slash
    (unslashed : ∀ directory, environment (ascii "TDH") = some directory →
      directory.getLast? ≠ some Byte.slash) :
    (base environment).getLast? ≠ some Byte.slash := by
  rw [base]
  rcases given : environment (ascii "TDH") with _ | _ | ⟨first, rest⟩
  · decide
  · decide
  · exact unslashed _ given

/-- The program that is assigned is the default one where the default path gets a slash too. -/
theorem assignedProgram_eq (unslashed : (base environment).getLast? ≠ some Byte.slash) :
    assignedProgram environment = (expected environment fun _ => none).program := by
  have joined : inside (base environment) (ascii "trade.py") =
      base environment ++ ascii "/trade.py" := by
    rw [inside, if_neg unslashed]
    rfl
  rw [assignedProgram, ← joined]
  rfl

example :
    let environment := Variables.ofPairs [(ascii "TDH", ascii "/x/")]
    assignedProgram environment = ascii "/x//trade.py" ∧
      (expected environment fun _ => none).program = ascii "/x/trade.py" := by
  decide +kernel

theorem load_of_open {contents : Bytes}
    (given : answer (inside (base environment) (ascii "config.sh")) = .contents contents)
    (opened : ∃ line ∈ Bytes.splitOn Byte.newline contents, ¬Closed line) :
    ∃ position quote name,
      FirstOpen (Bytes.splitOn Byte.newline contents) position quote name ∧
      (load environment answer).result =
        .error (.invalid (inside (base environment) (ascii "config.sh"))
          ⟨position + 1, quote, name⟩) := by
  obtain ⟨position, quote, name, first⟩ := exists_firstOpen opened
  have failed : (parse environment contents).result = .error ⟨position + 1, quote, name⟩ :=
    parseLines_eq_error_iff.mpr ⟨position, Nat.add_comm position 1, first⟩
  refine ⟨position, quote, name, first, ?_⟩
  rw [load, result_load_of_text (text?_configPath given), failed, configPath_eq]
  rfl

/-- A file of which two lines assign the defaults, and no other line assigns anything, gives the
settings that there are without a file, whatever values variables have, unless the directory in
the environment ends in a slash.  A file with a line that leaves a quote open gives no settings. -/
theorem load_defaults {contents : Bytes}
    (given : answer (inside (base environment) (ascii "config.sh")) = .contents contents) :
    let lines := Bytes.splitOn Byte.newline contents
    (∀ first second, AssignsDefaults environment lines first second →
      (∀ directory, environment (ascii "TDH") = some directory →
        directory.getLast? ≠ some Byte.slash) →
      (∀ line ∈ lines, Closed line) →
      ∃ settings, (load environment fun _ => .missing).result = .ok settings ∧
        (load environment answer).result = .ok settings) ∧
    ((∃ line ∈ lines, ¬Closed line) →
      ∃ position quote name, FirstOpen lines position quote name ∧
        (load environment answer).result =
          .error (.invalid (inside (base environment) (ascii "config.sh"))
            ⟨position + 1, quote, name⟩)) := by
  intro lines
  refine ⟨?_, load_of_open given⟩
  intro first second defaults unslashed closed
  refine ⟨_, load_missing environment, ?_⟩
  rw [load_of_assignsDefaults given defaults closed,
    assignedProgram_eq (getLast?_base_ne_slash unslashed)]

/-- Variables that are set and empty, and lines that are skipped around those that assign. -/
theorem load_defaults_empty :
    let environment := Variables.ofPairs [(ascii "TDH", []), (ascii "TDPY", [])]
    let contents := ascii "# Sourced by the helper scripts\nTDLOC_SHELL=$(x)\n" ++ defaultBase ++
      ascii "\r\n\n  " ++ programInBase ++
      ascii "\nif [ -n \"$TD_DEBUG\" ]; then set -x; fi\n"
    let lines := Bytes.splitOn Byte.newline contents
    let settings : Settings :=
      { baseDirectory := ascii ".", program := ascii "./trade.py", mode := .direct,
        verbose := false }
    AssignsDefaults environment lines 2 4 ∧ (∀ line ∈ lines, Closed line) ∧
      (load environment fun _ => .missing).result = .ok settings ∧
      (load environment fun _ => .contents contents).result = .ok settings ∧
      ∃ position quote name,
        FirstOpen (Bytes.splitOn Byte.newline (contents ++ ascii "A='b")) position quote name ∧
        (load environment fun _ => .contents (contents ++ ascii "A='b")).result =
          .error (.invalid (ascii "./config.sh") ⟨position + 1, quote, name⟩) := by
  intro environment contents lines settings
  have only : ∀ position < lines.length,
      Assigned environment lines position → position = 2 ∨ position = 4 := by decide +kernel
  have defaults : AssignsDefaults environment lines 2 4 := by
    refine ⟨by decide, by decide +kernel, by decide +kernel, ?_⟩
    rintro position ⟨name, value, assigns⟩
    exact only position assigns.lt_length ⟨name, value, assigns⟩
  have closed : ∀ line ∈ lines, Closed line := by decide +kernel
  have unslashed : ∀ directory, environment (ascii "TDH") = some directory →
      directory.getLast? ≠ some Byte.slash := by
    rintro _ ⟨⟩
    simp
  have opened : ∃ line ∈ Bytes.splitOn Byte.newline (contents ++ ascii "A='b"), ¬Closed line := by
    decide +kernel
  have known : (load environment fun _ => .missing).result = .ok settings := by decide +kernel
  refine ⟨defaults, closed, known, ?_, ?_⟩
  · obtain ⟨found, missing, same⟩ :=
      (@load_defaults environment (fun _ => .contents contents) contents rfl).1 2 4 defaults
        unslashed closed
    obtain rfl : settings = found := Except.ok.inj (known.symm.trans missing)
    exact same
  · exact (@load_defaults environment (fun _ => .contents (contents ++ ascii "A='b")) _ rfl).2
      opened

end Settings

end TradeLocal
