import TradeLocal.Config.File
import TradeLocal.Failure

/-!
# Settings

What the tool needs to know before it runs anything.  Each setting comes from the
environment if it has a nonempty value there, else from the configuration file of the base
directory, else from a default.
-/

namespace TradeLocal

inductive Mode where
  /-- The program is started with the words of the command. -/
  | direct
  /-- A shell is given the command as text. -/
  | shell
  /-- A mode number that has no meaning. -/
  | other (number : Int)
  deriving DecidableEq, Repr

def Mode.name : Mode → Bytes
  | direct => ascii "direct"
  | shell => ascii "shell"
  | other _ => []

structure Settings where
  baseDirectory : Bytes := []
  program : Bytes
  mode : Mode := .direct
  verbose : Bool := false
  deriving DecidableEq, Repr

namespace Setting

def baseDirectory : Bytes := ascii "TDH"
def program : Bytes := ascii "TDPY"
def shellMode : Bytes := ascii "TDLOC_SHELL"
def verbose : Bytes := ascii "TDLOC_VERBOSE"
def configFile : Bytes := ascii "config.sh"
def defaultProgram : Bytes := ascii "trade.py"
def defaultBaseDirectory : Bytes := ascii "."

end Setting

/-- The values that switch a setting on, in any case. -/
def yesWords : List Bytes :=
  [ascii "true", ascii "t", ascii "yes", ascii "y", ascii "1"]

/-- Whether a value switches a setting on.  Whitespace around it does not count. -/
def meansYes (value : Bytes) : Bool :=
  yesWords.contains ((Bytes.trim value).map Byte.toLower)

/-- The path of `name` in `directory`, with one slash between them unless the directory
ends in one or is empty. -/
def pathIn (directory name : Bytes) : Bytes :=
  match directory.getLast? with
  | none => name
  | some last => if last = Byte.slash then directory ++ name else directory ++ Byte.slash :: name

def nonempty? (value : Option Bytes) : Option Bytes :=
  value.filter (!·.isEmpty)

inductive FileAnswer where
  | missing
  /-- The system does not say what there is. -/
  | refused (error : SystemError)
  /-- There is a file, and it cannot be opened. -/
  | closed (error : SystemError)
  /-- The file was opened, and reading it failed. -/
  | broken
  | contents (text : Bytes)
  deriving DecidableEq, Repr

inductive LoadError where
  | unreadable (path : Bytes) (error : SystemError)
  | closed (path : Bytes) (error : SystemError)
  | broken (path : Bytes)
  | invalid (path : Bytes) (error : Config.Unterminated)
  deriving DecidableEq, Repr

def LoadError.failure : LoadError → Failure
  | unreadable path error => error.failure (ascii "Error loading '" ++ path ++ ascii "'")
  | closed path error => error.failure (ascii "Error opening '" ++ path ++ ascii "'")
  | broken path => ⟨.internal, ascii "Error reading '" ++ path ++ ascii "'"⟩
  | invalid path error => ⟨.failedPrecondition, error.text path⟩

inductive LoadNotice where
  | noFile (path : Bytes)
  | reading (path : Bytes)
  | skipped (path : Bytes) (note : Config.Note)
  deriving DecidableEq, Repr

def LoadNotice.text : LoadNotice → Bytes
  | noFile path => ascii "No config file at '" ++ path ++ ascii "'"
  | reading path => ascii "Reading config from '" ++ path ++ ascii "'"
  | skipped path note => note.text path

structure Loaded (α : Type) where
  notices : List LoadNotice
  result : Except LoadError α

namespace Config

/-- Read the configuration file at a path.  A missing file assigns nothing. -/
def load (environment : Variables) (answer : Bytes → FileAnswer) (path : Bytes) :
    Loaded Assignments :=
  match answer path with
  | .missing => ⟨[.noFile path], .ok {}⟩
  | .refused error => ⟨[], .error (.unreadable path error)⟩
  | .closed error => ⟨[], .error (.closed path error)⟩
  | .broken => ⟨[], .error (.broken path)⟩
  | .contents text =>
      let parsed := parse environment text
      ⟨.reading path :: parsed.notes.map (.skipped path),
        parsed.result.mapError (.invalid path)⟩

end Config

namespace Settings

/-- The value of a setting: the environment's if not empty, else the file's if not empty. -/
def lookup (environment : Variables) (file : Config.Assignments) (name : Bytes) :
    Option Bytes :=
  (nonempty? (environment name)).or (nonempty? (file.get? name))

def isOn (environment : Variables) (file : Config.Assignments) (name : Bytes) : Bool :=
  (lookup environment file name).any meansYes

def resolve (environment : Variables) (base : Bytes) (file : Config.Assignments) : Settings where
  baseDirectory := base
  program :=
    (lookup environment file Setting.program).getD (pathIn base Setting.defaultProgram)
  mode := if isOn environment file Setting.shellMode then .shell else .direct
  verbose := isOn environment file Setting.verbose

/-- The base directory of an environment.  The configuration file cannot change it. -/
def baseOf (environment : Variables) : Bytes :=
  (nonempty? (environment Setting.baseDirectory)).getD Setting.defaultBaseDirectory

def configPath (environment : Variables) : Bytes :=
  pathIn (baseOf environment) Setting.configFile

def load (environment : Variables) (answer : Bytes → FileAnswer) : Loaded Settings :=
  -- The file reads the environment as it is, in which the base directory has no default.
  let file := Config.load environment answer (configPath environment)
  ⟨file.notices, file.result.map (resolve environment (baseOf environment))⟩

end Settings

end TradeLocal
