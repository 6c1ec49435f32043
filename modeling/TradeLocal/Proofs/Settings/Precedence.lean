import TradeLocal.Environment
import TradeLocal.Proofs.Config.FinalValue
import TradeLocal.Settings

/-!
# Where settings come from

Each setting is taken from the environment if it has a nonempty value there, else from the
last assignment in the configuration file if that is nonempty, else it has its default.  An
unset variable and an empty one count alike.  The base directory comes from the environment
alone.
-/

namespace TradeLocal

namespace FileAnswer

/-- A file that is there can be opened and read. -/
def Readable (answer : FileAnswer) : Prop :=
  answer ≠ .broken ∧ ∀ error, answer ≠ .closed error

/-- The text that is read.  A file that is missing reads as an empty one. -/
def text? : FileAnswer → Option Bytes
  | missing => some []
  | contents text => some text
  | refused _ | closed _ | broken => none

end FileAnswer

namespace Settings

open Config

/-- The environment's value if it is not empty, else the file's if it is not empty. -/
def preferred : Option Bytes → Option Bytes → Option Bytes
  | some (first :: rest), _ => some (first :: rest)
  | _, some (first :: rest) => some (first :: rest)
  | _, _ => none

/-- A path into a directory.  A slash is added unless the directory ends in one. -/
def inside (directory name : Bytes) : Bytes :=
  if directory.getLast? = some Byte.slash then directory ++ name
  else directory ++ Byte.slash :: name

def base (environment : Variables) : Bytes :=
  (preferred (environment (ascii "TDH")) none).getD (ascii ".")

/-- The settings in an environment when a file leaves variables with the `final` values. -/
def expected (environment final : Variables) : Settings where
  baseDirectory := base environment
  program :=
    (preferred (environment (ascii "TDPY")) (final (ascii "TDPY"))).getD
      (inside (base environment) (ascii "trade.py"))
  mode :=
    if (preferred (environment (ascii "TDLOC_SHELL")) (final (ascii "TDLOC_SHELL"))).any meansYes
    then .shell else .direct
  verbose :=
    (preferred (environment (ascii "TDLOC_VERBOSE")) (final (ascii "TDLOC_VERBOSE"))).any meansYes

/-- There is no file, an empty one, or one of which every line is blank, a comment or
skipped. -/
def Idle (environment : Variables) (answer : FileAnswer) : Prop :=
  answer = .missing ∨ answer = .contents [] ∨
    ∃ contents, answer = .contents contents ∧
      ∀ line ∈ Bytes.splitOn Byte.newline contents,
        (Line.ofText line).effect environment = .nothing ∨
          ∃ reason, (Line.ofText line).effect environment = .skip reason

theorem nonempty?_or_nonempty? (environment file : Option Bytes) :
    (nonempty? environment).or (nonempty? file) = preferred environment file := by
  rcases environment with _ | _ | ⟨first, rest⟩ <;> rcases file with _ | _ | ⟨other, others⟩ <;> rfl

theorem lookup_eq_preferred (environment : Variables) (file : Assignments) (name : Bytes) :
    lookup environment file name = preferred (environment name) (file.get? name) :=
  nonempty?_or_nonempty? _ _

theorem baseOf_eq_base (environment : Variables) : baseOf environment = base environment := by
  have preferredAlone := nonempty?_or_nonempty? (environment (ascii "TDH")) none
  rw [show nonempty? none = none from rfl, Option.or_none] at preferredAlone
  rw [base, ← preferredAlone]
  rfl

theorem base_ne_nil (environment : Variables) : base environment ≠ [] := by
  rw [base]
  rcases environment (ascii "TDH") with _ | _ | ⟨first, rest⟩ <;> simp [preferred, ascii]

theorem pathIn_eq_inside {directory : Bytes} (nonempty : directory ≠ []) (name : Bytes) :
    pathIn directory name = inside directory name := by
  rw [pathIn, inside]
  cases last : directory.getLast? with
  | none => exact absurd (List.getLast?_eq_none_iff.mp last) nonempty
  | some byte => simp

theorem configPath_eq (environment : Variables) :
    configPath environment = inside (base environment) (ascii "config.sh") := by
  rw [configPath, baseOf_eq_base, pathIn_eq_inside (base_ne_nil environment)]
  rfl

theorem resolve_eq_expected (environment : Variables) (file : Assignments) :
    resolve environment (baseOf environment) file = expected environment file.get? := by
  rw [resolve, isOn, isOn, lookup_eq_preferred, lookup_eq_preferred, lookup_eq_preferred,
    baseOf_eq_base, pathIn_eq_inside (base_ne_nil environment)]
  rfl

variable {environment : Variables} {answer : Bytes → FileAnswer}

/-- Reading an empty text assigns nothing, like reading nothing. -/
theorem result_load_of_text {path text : Bytes} (found : (answer path).text? = some text) :
    (Config.load environment answer path).result =
      (parse environment text).result.mapError (.invalid path) := by
  rw [Config.load]
  cases given : answer path with
  | missing =>
      obtain rfl : [] = text := by simpa [given, FileAnswer.text?] using found
      rfl
  | contents contents =>
      obtain rfl : contents = text := by simpa [given, FileAnswer.text?] using found
      rfl
  | _ => simp [given, FileAnswer.text?] at found

theorem load_of_parse {text : Bytes} {file : Assignments}
    (found : (answer (configPath environment)).text? = some text)
    (read : (parse environment text).result = .ok file) :
    (load environment answer).result = .ok (expected environment file.get?) := by
  rw [load, result_load_of_text found, read, ← resolve_eq_expected]
  rfl

theorem load_eq_ok_iff {settings : Settings} :
    (load environment answer).result = .ok settings ↔
      ∃ text file, (answer (configPath environment)).text? = some text ∧
        (parse environment text).result = .ok file ∧
        settings = expected environment file.get? := by
  constructor
  · intro loaded
    cases found : (answer (configPath environment)).text? with
    | none =>
        rw [load, Config.load] at loaded
        cases given : answer (configPath environment) <;>
          simp [given, FileAnswer.text?, Except.map] at found loaded
    | some text =>
        cases read : (parse environment text).result with
        | error error =>
            rw [load, result_load_of_text found, read] at loaded
            cases loaded
        | ok file =>
            rw [load_of_parse found read] at loaded
            exact ⟨text, file, rfl, read, (Except.ok.inj loaded).symm⟩
  · rintro ⟨text, file, found, read, rfl⟩
    exact load_of_parse found read

theorem result_parseLines_of_idle {lines : List Bytes}
    (idle : ∀ line ∈ lines, (Line.ofText line).effect environment = .nothing ∨
      ∃ reason, (Line.ofText line).effect environment = .skip reason) (number : Nat) :
    (parseLines environment number {} lines).result = .ok {} := by
  induction lines generalizing number with
  | nil => rfl
  | cons line rest ih =>
      have later := ih (fun other member => idle other (by simp [member])) (number + 1)
      rw [parseLines, Assignments.shadowing_empty]
      rcases idle line (by simp) with nothing | ⟨reason, skipped⟩
      · rw [nothing]
        exact later
      · rw [skipped]
        exact later

theorem load_of_idle (idle : Idle environment (answer (configPath environment))) :
    (load environment answer).result = .ok (expected environment fun _ => none) := by
  rcases idle with missing | empty | ⟨contents, given, idle⟩
  · have found : (answer (configPath environment)).text? = some [] := by
      rw [missing]
      rfl
    exact load_of_parse found rfl
  · have found : (answer (configPath environment)).text? = some [] := by
      rw [empty]
      rfl
    exact load_of_parse found rfl
  · have found : (answer (configPath environment)).text? = some contents := by
      rw [given]
      rfl
    exact load_of_parse found (result_parseLines_of_idle idle 1)

/-- Only three variables of a file matter. -/
theorem expected_congr {first second : Variables}
    (program : first (ascii "TDPY") = second (ascii "TDPY"))
    (shellMode : first (ascii "TDLOC_SHELL") = second (ascii "TDLOC_SHELL"))
    (verbose : first (ascii "TDLOC_VERBOSE") = second (ascii "TDLOC_VERBOSE")) :
    expected environment first = expected environment second := by
  rw [expected, expected, program, shellMode, verbose]

theorem load_eq_error_iff (readable : (answer (configPath environment)).Readable) :
    (∃ error, (load environment answer).result = .error error) ↔
      (∃ error, answer (configPath environment) = .refused error) ∨
        ∃ contents error, answer (configPath environment) = .contents contents ∧
          (parse environment contents).result = .error error := by
  rw [load, Config.load]
  cases given : answer (configPath environment) with
  | missing => simp [Except.map]
  | refused error => simp [Except.map]
  | closed error => exact absurd given (readable.2 error)
  | broken => exact absurd given readable.1
  | contents text =>
      cases read : (parse environment text).result <;> simp [read, Except.mapError, Except.map]

/-- Settings come from the environment, the last assignments of the file and the defaults, in
this order; nothing but a refusal of the system or an invalid file prevents them; and of a
file only the final values of three variables matter. -/
theorem load_precedence
    (readable : (answer (inside (base environment) (ascii "config.sh"))).Readable) :
    let found := answer (inside (base environment) (ascii "config.sh"))
    ((∃ error, (load environment answer).result = .error error) ↔
      (∃ error, found = .refused error) ∨
        ∃ contents error, found = .contents contents ∧
          (parse environment contents).result = .error error) ∧
    (∀ settings, (load environment answer).result = .ok settings →
      ∃ text final, found.text? = some text ∧
        (∀ name value, FinalValue environment (Bytes.splitOn Byte.newline text) name value ↔
          final name = value) ∧
        settings = expected environment final) ∧
    (Idle environment found →
      (load environment answer).result = .ok (expected environment fun _ => none)) ∧
    ∀ other contents otherContents file otherFile,
      found = .contents contents →
      other (inside (base environment) (ascii "config.sh")) = .contents otherContents →
      (parse environment contents).result = .ok file →
      (parse environment otherContents).result = .ok otherFile →
      (∀ name ∈ [ascii "TDPY", ascii "TDLOC_SHELL", ascii "TDLOC_VERBOSE"], ∀ value,
        FinalValue environment (Bytes.splitOn Byte.newline contents) name value ↔
          FinalValue environment (Bytes.splitOn Byte.newline otherContents) name value) →
      (load environment answer).result = (load environment other).result := by
  rw [← configPath_eq] at readable ⊢
  refine ⟨load_eq_error_iff readable, ?_, load_of_idle, ?_⟩
  · intro settings loaded
    obtain ⟨text, file, found, read, rfl⟩ := load_eq_ok_iff.mp loaded
    exact ⟨text, file.get?, found, fun name value => finalValue_iff read, rfl⟩
  · intro other contents otherContents file otherFile given otherGiven read otherRead same
    have agree : ∀ name ∈ [ascii "TDPY", ascii "TDLOC_SHELL", ascii "TDLOC_VERBOSE"],
        file.get? name = otherFile.get? name := by
      intro name member
      have final := (same name member (file.get? name)).mp (finalValue_get? read name)
      exact ((finalValue_iff otherRead).mp final).symm
    rw [load_of_parse (by rw [given]; rfl) read, load_of_parse (by rw [otherGiven]; rfl) otherRead,
      expected_congr (agree _ (by simp)) (agree _ (by simp)) (agree _ (by simp))]

/-- An empty value in the environment does not count, and neither does a skipped line. -/
theorem load_precedence_empty :
    let environment := Variables.ofPairs [(ascii "TDPY", []), (ascii "TDLOC_SHELL", ascii "0")]
    let text := ascii "TDH=/x\nTDPY=p.py\nTDPY=$(x)\nTDLOC_SHELL=1\nTDLOC_VERBOSE=yes"
    (FileAnswer.contents text).Readable ∧
      ∃ contents final, (FileAnswer.contents text).text? = some contents ∧
        (∀ name value, FinalValue environment (Bytes.splitOn Byte.newline contents) name value ↔
          final name = value) ∧
        { baseDirectory := ascii ".", program := ascii "p.py", verbose := true } =
          expected environment final := by
  intro environment text
  have readable : (FileAnswer.contents text).Readable := ⟨by simp, by simp⟩
  have loaded : (load environment fun _ => .contents text).result =
      .ok { baseDirectory := ascii ".", program := ascii "p.py", verbose := true } := by
    decide +kernel
  exact ⟨readable, (@load_precedence environment (fun _ => .contents text) readable).2.1 _ loaded⟩

end Settings

end TradeLocal
