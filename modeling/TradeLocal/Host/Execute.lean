import TradeLocal.Environment
import TradeLocal.Host.Path

/-!
# Executing a path

Which program of the system a path stands for when it is executed.  A file that begins with
`#!` names another program on its first line, which is given the file's path; a program
named without a slash is looked for in the directories of `PATH`.
-/

namespace TradeLocal.Host

/-- The longest argument or environment entry, its end included. -/
def argumentLimit : Nat := 131072

/-- The room for all arguments and environment entries together, with their ends and a
pointer to each. -/
def argumentRoom : Nat := 2097152

def headerLength : Nat := 256

def interpreterLimit : Nat := 5

def defaultPath : Bytes := ascii "/bin:/usr/bin"

/-- A host: its files, the current directory, and the environment of the tool. -/
structure World where
  files : Files
  here : Location
  environment : Environment

structure Job where
  utility : Utility
  words : List Bytes
  deriving DecidableEq, Repr

def exceedsRoom (texts : List Bytes) : Bool :=
  texts.any (argumentLimit ≤ ·.length) ||
    argumentRoom < texts.foldl (fun total text => total + text.length + 9) 0

def dropBlanks (line : Bytes) : Bytes :=
  (line.reverse.dropWhile Byte.isBlank).reverse

/-- The line behind `#!`, as far as it is read.  A newline ends it and the blanks before.
Without one the name of the interpreter must end within the header, which counts as filled
up with NULs. -/
def interpreterLine? (header : Bytes) : Option Bytes :=
  match header.takeWhile (· != 0) with
  | 35 :: 33 :: rest =>
      if rest.contains Byte.newline then
        some (dropBlanks (rest.takeWhile (· != Byte.newline)))
      else
        let filled := (header.drop 2).take (headerLength - 2)
        let filled := filled ++ List.replicate (headerLength - 2 - filled.length) 0
        match filled.dropWhile Byte.isBlank with
        | [] => none
        | name =>
            if name.any fun byte => Byte.isBlank byte || byte == 0 then
              some (dropBlanks (filled.take (headerLength - 3)))
            else none
  | _ => none

/-- Read the first line of a file as the path of an interpreter and at most one argument
for it.  The path is empty where a NUL stands in its place. -/
def interpreter? (text : Bytes) : Option (Bytes × List Bytes) :=
  match (interpreterLine? (text.take headerLength)).map (·.dropWhile Byte.isBlank) with
  | none | some [] => none
  | some line =>
      let isName (byte : UInt8) : Bool := !Byte.isBlank byte && byte != 0
      let argument := Bytes.cutAtNul ((line.dropWhile isName).dropWhile Byte.isBlank)
      some (line.takeWhile isName, if argument.isEmpty then [] else [argument])

/-- Execute a path with an argument vector, with at most `budget` interpreters.  The file of
an interpreter too many is still looked for. -/
def executePath (files : Files) (here : Location) (entries : List Bytes) (words : List Bytes) :
    Nat → Bytes → Except SystemError Job
  | budget, path =>
      match find files here path with
      | .error error => .error error
      | .ok ⟨_, _, .program utility⟩ =>
          if exceedsRoom (words ++ entries) then .error .argumentsTooLong
          else .ok ⟨utility, words⟩
      | .ok ⟨_, _, .file text mode⟩ =>
          if mode &&& 0o111 == 0 then .error .accessDenied
          else if exceedsRoom (words ++ entries) then .error .argumentsTooLong
          else
            match interpreter? text with
            | none => .error .badFormat
            | some (interpreter, arguments) =>
                match find files here interpreter with
                | .error error =>
                    .error (if interpreter.isEmpty then .accessDenied else error)
                | .ok found =>
                    match budget with
                    | 0 =>
                        .error (if found.node.isPlain && found.node.isExecutable
                          then .tooManyLinks else .accessDenied)
                    | budget + 1 =>
                        executePath files here entries
                          (interpreter :: arguments ++ path :: words.tail) budget interpreter
      | .ok _ => .error .accessDenied
termination_by budget => budget

/-- Try the directories of a search path in turn.  A directory without the program is
passed over, and so is one where it may not be executed; any other refusal is final.  In
place of a directory whose path is too long the name itself is tried, unless it is the
last. -/
def searchPath (execute : Bytes → Except SystemError Job) (name : Bytes) (denied : Bool)
    (last : SystemError) : List Bytes → Except SystemError Job
  | [] => .error (if denied then .accessDenied else last)
  | directory :: rest =>
      if pathLimit ≤ directory.length && rest.isEmpty then
        .error (if denied then .accessDenied else last)
      else
        let path :=
          if directory.isEmpty || pathLimit ≤ directory.length then name
          else directory ++ Byte.slash :: name
        match execute path with
        | .ok job => .ok job
        | .error .accessDenied => searchPath execute name true .accessDenied rest
        | .error .notFound => searchPath execute name denied .notFound rest
        | .error .notDirectory => searchPath execute name denied .notDirectory rest
        | .error error => .error error

def World.resolve (world : World) (words : List Bytes) : Except SystemError Job :=
  let words := words.map Bytes.cutAtNul
  let execute :=
    executePath world.files world.here world.environment.entries words interpreterLimit
  match words with
  | [] | [] :: _ => .error .notFound
  | name :: _ =>
      if name.contains Byte.slash then execute name
      else
        searchPath execute name false .notFound
          (Bytes.splitOn Byte.colon
            ((world.environment.get? (ascii "PATH")).getD defaultPath))

end TradeLocal.Host
