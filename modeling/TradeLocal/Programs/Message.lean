import TradeLocal.Environment
import TradeLocal.Host.Machine

/-!
# Messages of programs

How a program of the system shows names and words in its messages, and how it ends when it
cannot go on.
-/

namespace TradeLocal.Programs

open TradeLocal.Host

def unseenLetters : List (UInt8 × UInt8) :=
  [(7, 'a'), (8, 'b'), (9, 't'), (10, 'n'), (11, 'v'), (12, 'f'), (13, 'r')].map
    fun (byte, letter) => (byte, Byte.ofChar letter)

def isUnseen (byte : UInt8) : Bool :=
  byte < 32 || 127 ≤ byte

def octalDigits (byte : UInt8) : Bytes :=
  [48 + byte / 64, 48 + byte / 8 % 8, 48 + byte % 8]

def unseenText (byte : UInt8) : Bytes :=
  Byte.backslash ::
    match unseenLetters.lookup byte with
    | some letter => [letter]
    | none => octalDigits byte

def quoted (word : Bytes) : Bytes :=
  let shown (byte : UInt8) : Bytes :=
    if isUnseen byte then unseenText byte
    else if byte == Byte.singleQuote || byte == Byte.backslash then [Byte.backslash, byte]
    else [byte]
  Byte.singleQuote :: word.flatMap shown ++ [Byte.singleQuote]

def isPlainInName (byte : UInt8) : Bool :=
  Byte.isName byte || (ascii "%+,-./:@]").contains byte

def isPlainName (name : Bytes) : Bool :=
  match name with
  | [] => false
  | [byte] => isPlainInName byte
  | first :: rest =>
      (isPlainInName first || (ascii "\x7b\x7d").contains first) &&
        rest.all fun byte => isPlainInName byte || (ascii "#~\x7b\x7d").contains byte

def isPlainInQuotes (name : Bytes) : Bool :=
  let isPlain (byte : UInt8) : Bool :=
    isPlainInName byte || byte == Byte.space || byte == Byte.singleQuote
  name.contains Byte.singleQuote &&
    match name with
    | [] => false
    | first :: rest => (isPlain first || (ascii "#~").contains first) && rest.all isPlain

/-- A name in single quotes, from which what cannot be seen is taken out; `inEscape` says that
such bytes came last. -/
def quoteName (inEscape : Bool) : Bytes → Bytes
  | [] => [Byte.singleQuote]
  | byte :: rest =>
      if isUnseen byte then
        (if inEscape then [] else ascii "'$'") ++ unseenText byte ++ quoteName true rest
      else if byte == Byte.singleQuote then ascii "'\\''" ++ quoteName false rest
      else (if inEscape then ascii "''" else []) ++ byte :: quoteName false rest

def quotedName (name : Bytes) : Bytes :=
  if isPlainInQuotes name then Byte.doubleQuote :: name ++ [Byte.doubleQuote]
  else Byte.singleQuote :: quoteName false name

/-- A name as a shell would take it, in quotes where they are needed. -/
def shownName (name : Bytes) : Bytes :=
  if isPlainName name then name else quotedName name

structure Call where
  /-- The name under which it was called. -/
  name : Bytes
  arguments : List Bytes
  environment : Environment := {}
  /-- The exit code when it cannot do what is asked. -/
  trouble : Nat := 1
  /-- What refers to the help of the program, if it has words of its own for that. -/
  helpText? : Option Bytes := none

namespace Call

def tell (text : Bytes) : Work Unit := do
  let _ ← Work.write 2 text

def complain (call : Call) (text : Bytes) : Work Unit :=
  tell (call.name ++ ascii ": " ++ text ++ [Byte.newline])

def referToHelp {α : Type} (call : Call) : Work α := do
  tell (call.helpText?.getD
    (ascii "Try '" ++ call.name ++ ascii " --help' for more information.\n"))
  Work.exit call.trouble

def misuse {α : Type} (call : Call) (text : Bytes) : Work α := do
  call.complain text
  call.referToHelp

def abandon {α : Type} (call : Call) (text : Bytes) : Work α := do
  call.complain text
  Work.exit call.trouble

def complainOf (call : Call) (path : Bytes) (error : SystemError) : Work Unit :=
  call.complain (shownName path ++ ascii ": " ++ error.text)

/-- Write to standard output at once; the program ends where that fails. -/
def putNow (call : Call) (text : Bytes) : Work Unit := do
  unless text.isEmpty do
    match ← Work.write 1 text with
    | .ok () => pure ()
    | .error error => call.abandon (ascii "write error: " ++ error.text)

/-- Have a text written to standard output when the program ends. -/
def put (text : Bytes) : Work Unit :=
  Work.changeProcess fun process => { process with unwritten := text :: process.unwritten }

def flush (call : Call) : Work Unit := do
  let text := (← Work.process).unwritten.reverse.flatten
  Work.changeProcess fun process => { process with unwritten := [] }
  call.putNow text

/-- The contents of a file; a hyphen stands for standard input. -/
def contents (path : Bytes) : Work (Except SystemError Bytes) :=
  if path = [Byte.hyphen] then Work.readAll 0 else Work.readFile path

/-- The contents of a file, or nothing if it cannot be read, which is reported. -/
def contents? (call : Call) (path : Bytes) : Work (Option Bytes) := do
  match ← contents path with
  | .ok text => return some text
  | .error error => do
      call.complainOf path error
      return none

def answerLimit : Nat := 100000

def readAnswer : Nat → Bytes → Work Bytes
  | 0, line => return line.reverse
  | fuel + 1, line => do
      match ← Work.read 1 0 with
      | .ok (byte :: _) =>
          if byte == Byte.newline then return line.reverse else readAnswer fuel (byte :: line)
      | _ => return line.reverse

/-- Ask something.  Says whether the answer that is read agrees. -/
def confirm (call : Call) (question : Bytes) : Work Bool := do
  tell (call.name ++ ascii ": " ++ question ++ ascii "? ")
  let answer ← readAnswer answerLimit []
  return answer.head?.any fun letter => Byte.toLower letter == Byte.ofChar 'y'

/-- Report that standard input, if it was among the files, cannot be closed.  Says whether it
can. -/
def closeInput (call : Call) (paths : List Bytes) (name : String := "-") : Work Bool := do
  if paths.contains [Byte.hyphen] && (← Work.opened? 0).isNone then
    call.complain (ascii name ++ ascii ": " ++ SystemError.text .badDescriptor)
    return false
  else return true

def refuseExtra {α : Type} (call : Call) (word : Bytes) : Work α :=
  call.misuse (ascii "extra operand " ++ quoted word)

def missOperand {α : Type} (call : Call) (kind : Bytes := []) : Work α :=
  call.misuse (ascii "missing " ++ kind ++ ascii "operand")

end Call

/-- The lines of a text, each with the newline at its end if it has one. -/
def fullLines (text : Bytes) : List Bytes :=
  let (present, done) := text.foldl
    (fun (present, done) byte =>
      if byte == Byte.newline then ([], (byte :: present).reverse :: done)
      else (byte :: present, done))
    (([] : Bytes), ([] : List Bytes))
  (if present.isEmpty then done else present.reverse :: done).reverse

def lines (text : Bytes) : List Bytes :=
  (fullLines text).map fun line =>
    if line.getLast? == some Byte.newline then line.dropLast else line

def unlines (lines : List Bytes) : Bytes :=
  lines.flatMap (· ++ [Byte.newline])

end TradeLocal.Programs
