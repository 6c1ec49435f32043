import TradeLocal.Programs.Message

/-!
# Options of programs

An option is a letter behind a hyphen or a word behind two.  Options may stand behind other
arguments, unless a program takes what comes first as the end of them.
-/

namespace TradeLocal.Programs

open TradeLocal.Host

inductive Takes where
  | nothing
  | argument
  /-- An argument in the same word, if any. -/
  | optional
  deriving DecidableEq, Repr

structure OptionForm where
  letter : Option UInt8
  word : Option Bytes
  takes : Takes

/-- An option with a letter and a word, either of which may be empty. -/
def OptionForm.of (letter : String) (word : String) (takes : Takes) : OptionForm :=
  { letter := (ascii letter).head?
    word := if word.isEmpty then none else some (ascii word)
    takes }

/-- An option that was given: its letter, or its word if it has no letter. -/
structure Given where
  key : Bytes
  argument : Option Bytes

def OptionForm.key (form : OptionForm) : Bytes :=
  match form.letter with
  | some letter => [letter]
  | none => form.word.getD []

structure Arguments where
  options : List Given := []
  operands : List Bytes := []

namespace Arguments

def has (arguments : Arguments) (key : String) : Bool :=
  arguments.options.any (·.key == ascii key)

def last? (arguments : Arguments) (key : String) : Option Bytes :=
  (arguments.options.reverse.find? (·.key == ascii key)).bind Given.argument

def lastOf? (arguments : Arguments) (keys : List String) : Option Bytes :=
  (arguments.options.reverse.find? fun given =>
    keys.any fun key => given.key == ascii key).map Given.key

end Arguments

namespace Call

/-- The forms that a word may stand for: that of the word, or those that begin with it. -/
def candidates (forms : List OptionForm) (word : Bytes) : List OptionForm :=
  match forms.filter (·.word == some word) with
  | [] => forms.filter fun form => form.word.any (word.isPrefixOf ·)
  | exact => exact

def readWord (call : Call) (forms : List OptionForm) (text : Bytes) (rest : List Bytes) :
    Work (Given × List Bytes) := do
  let word := text.takeWhile (· != Byte.equals)
  let value? := if word.length < text.length then some (text.drop (word.length + 1)) else none
  let dashed (word : Bytes) : Bytes :=
    Byte.singleQuote :: Byte.hyphen :: Byte.hyphen :: word ++ [Byte.singleQuote]
  match candidates forms word with
  | [] => call.misuse (ascii "unrecognized option " ++ dashed text)
  | form :: others =>
      if others.any (·.key != form.key) then
        call.misuse (ascii "option " ++ dashed text ++ ascii " is ambiguous; possibilities:" ++
          (form :: others).flatMap fun form => Byte.space :: dashed (form.word.getD []))
      else
        let name := dashed (form.word.getD [])
        match form.takes, value?, rest with
        | .nothing, some _, _ =>
            call.misuse (ascii "option " ++ name ++ ascii " doesn't allow an argument")
        | .argument, none, [] =>
            call.misuse (ascii "option " ++ name ++ ascii " requires an argument")
        | .argument, none, argument :: rest =>
            return (⟨form.key, some argument⟩, rest)
        | _, value?, rest => return (⟨form.key, value?⟩, rest)

/-- Add an option that has been read, after a look at it and at the options before it. -/
def addOption (inspect : List Given → Given → Work Unit) (read : Arguments) (given : Given) :
    Work Arguments := do
  inspect read.options given
  return { read with options := read.options ++ [given] }

def readLetters (call : Call) (forms : List OptionForm)
    (inspect : List Given → Given → Work Unit) :
    Arguments → Bytes → List Bytes → Work (Arguments × List Bytes)
  | read, [], rest => return (read, rest)
  | read, letter :: letters, rest => do
      match forms.find? (·.letter == some letter) with
      | none =>
          call.misuse (ascii "invalid option -- '" ++ letter :: ascii "'")
      | some form =>
          let add (argument : Option Bytes) : Work Arguments :=
            addOption inspect read ⟨form.key, argument⟩
          match form.takes with
          | .nothing => do call.readLetters forms inspect (← add none) letters rest
          | .optional => return (← add (if letters.isEmpty then none else some letters), rest)
          | .argument =>
              match letters, rest with
              | [], [] =>
                  call.misuse (ascii "option requires an argument -- '" ++ letter :: ascii "'")
              | [], argument :: rest => return (← add (some argument), rest)
              | letters, rest => return (← add (some letters), rest)

/-- Read options and operands.  With `stops` the first operand ends the options. -/
def readArguments (call : Call) (forms : List OptionForm) (stops : Bool)
    (inspect : List Given → Given → Work Unit) :
    Nat → Arguments → List Bytes → Work Arguments
  | 0, read, _ => return read
  | _, read, [] => return read
  | fuel + 1, read, word :: rest => do
      match word with
      | [Byte.hyphen, Byte.hyphen] => return { read with operands := read.operands ++ rest }
      | Byte.hyphen :: Byte.hyphen :: text => do
          let (given, rest) ← call.readWord forms text rest
          call.readArguments forms stops inspect fuel (← addOption inspect read given) rest
      | Byte.hyphen :: letter :: letters => do
          let (read, rest) ← call.readLetters forms inspect read (letter :: letters) rest
          call.readArguments forms stops inspect fuel read rest
      | _ =>
          if stops then return { read with operands := read.operands ++ word :: rest }
          else
            call.readArguments forms stops inspect fuel
              { read with operands := read.operands ++ [word] } rest

def parse (call : Call) (forms : List OptionForm)
    (inspect : List Given → Given → Work Unit := fun _ _ => pure ()) : Work Arguments :=
  call.readArguments forms false inspect (call.arguments.length + 1) {} call.arguments

def parseFront (call : Call) (forms : List OptionForm) : Work Arguments :=
  call.readArguments forms true (fun _ _ => pure ()) (call.arguments.length + 1) {}
    call.arguments

/-- The choice that the argument of an option names, or begins the name of.  The names of one
choice stand together; it is called by the first. -/
def choose (call : Call) (option : String) (choices : List (List String)) (argument : Bytes)
    (trouble : Nat := 1) : Work String := do
  let refuse (problem : String) : Work String :=
    misuse { call with trouble } (ascii problem ++ ascii " argument " ++ quoted argument ++
      ascii " for " ++ quoted (ascii option) ++ ascii "\nValid arguments are:" ++
      choices.flatMap fun names =>
        ascii "\n  - " ++
          List.intercalate (ascii ", ") (names.map fun name => quoted (ascii name)))
  match choices.find? (·.any fun name => ascii name == argument) with
  | some names => return names.headD ""
  | none =>
      match choices.filter (·.any fun name => argument.isPrefixOf (ascii name)) with
      | [names] => return names.headD ""
      | [] => refuse "invalid"
      | _ => refuse "ambiguous"

end Call

end TradeLocal.Programs
