import TradeLocal.Shell.Builtin
import TradeLocal.Shell.Child

/-!
# Finding commands

What the name of a command stands for: a function, a builtin, or a program that is looked for
in the directories of the search path.
-/

namespace TradeLocal.Shell

open TradeLocal.Host

inductive Finding where
  | builtin (builtin : Builtin)
  | function (body : Command)
  /-- A program, with the place in the search path of the directory it is in. -/
  | program (place : Option Nat)
  | unknown

structure Search where
  passesFunctions : Bool := false
  /-- Look only for what is known without searching. -/
  isBrief : Bool := false
  /-- Report that nothing is found. -/
  reports : Bool := false
  /-- Refuse a path at which nothing is. -/
  checksPaths : Bool := false
  /-- A search path other than that of the shell. -/
  path? : Option Bytes := none

def standardPath : Bytes :=
  ascii "/usr/local/sbin:/usr/local/bin:/usr/sbin:/usr/bin:/sbin:/bin"

def pathIn (directory name : Bytes) : Bytes :=
  if directory.isEmpty then name else directory ++ Byte.slash :: name

def searchErrorText : SystemError → Bytes
  | .notFound | .notDirectory => ascii "not found"
  | error => error.text

/-- The directory with an executable file of the name, by its place among those from `place` on. -/
def findPlace (files : Files) (here : Location) (name : Bytes) (place : Nat)
    (last : SystemError) : List Bytes → Except SystemError Nat
  | [] => .error last
  | directory :: rest =>
      match find files here (pathIn directory name) with
      | .ok found =>
          if found.node.isPlain && found.node.isExecutable then .ok place
          else findPlace files here name (place + 1) .accessDenied rest
      | .error .notFound | .error .notDirectory =>
          findPlace files here name (place + 1) last rest
      | .error error => findPlace files here name (place + 1) error rest

namespace Script

def searchPath : Script Bytes :=
  return (← value? (ascii "PATH")).getD []

def findCommand (search : Search) (name : Bytes) : Script Finding := do
  let context ← context
  if name.contains Byte.slash then
    if search.checksPaths && !(find (← work Work.files) (← work Work.here) name).isOk then
      return .unknown
    else return .program none
  else
    match if search.passesFunctions then none else context.functions.lookup name with
    | some body => return .function body
    | none =>
        match Builtin.ofName? name with
        | some builtin =>
            if builtin.isRegular || !search.isBrief then return .builtin builtin
            else return .unknown
        | none =>
            if search.isBrief then return .unknown
            else
              let known? := if search.path?.isSome then none else context.hashed.lookup name
              match known? with
              | some place => return .program place
              | none => do
                  let path := search.path?.getD (← searchPath)
                  match findPlace (← work Work.files) (← work Work.here) name 0 .notFound
                      (Bytes.splitOn Byte.colon path) with
                  | .ok place => do
                      if search.path?.isNone then
                        changeContext fun context =>
                          { context with hashed := context.hashed ++ [(name, place)] }
                      return .program place
                  | .error error => do
                      if search.reports then
                        complain (name ++ ascii ": " ++ searchErrorText error)
                      return .unknown

def notFoundStatus : Nat := 127
def notRunnableStatus : Nat := 126

/-- The path of the shell itself, which is given files of no known form. -/
def shellPath : Bytes := ascii "/bin/sh"

def jobAt (entries words : List Bytes) (path : Bytes) : Script (Except SystemError Job) := do
  let files ← work Work.files
  let here ← work Work.here
  match executePath files here entries words interpreterLimit path with
  | .error .badFormat =>
      return executePath files here entries (shellPath :: path :: words.tail) interpreterLimit
        shellPath
  | result => return result

def jobOf (path : Bytes) (place : Option Nat) (entries words : List Bytes) :
    Script (Except SystemError Job) := do
  let name := words.headD []
  if name.contains Byte.slash then jobAt entries words name
  else
    ((Bytes.splitOn Byte.colon path).drop (place.getD 0)).foldlM
      (fun result directory => do
        match result with
        | .ok job => return .ok job
        | .error last =>
            match ← jobAt entries words (pathIn directory name) with
            | .ok job => return .ok job
            | .error .notFound | .error .notDirectory => return .error last
            | .error error => return .error error)
      (.error .notFound)

def replaceWith {α : Type} (nested : Nested) (path : Bytes) (place : Option Nat)
    (words : List Bytes) : Script α := do
  let environment := (← context).environment
  match ← jobOf path place environment.entries words with
  | .ok job => do
      let code ← work (nested.start environment job)
      throw (.stop (.ended (.exited (code % 256))))
  | .error error => do
      let status :=
        match error with
        | .tooManyLinks | .nameTooLong | .notFound | .notDirectory => notFoundStatus
        | _ => notRunnableStatus
      setStatus status
      complain (words.headD [] ++ ascii ": " ++ searchErrorText error)
      throw .notReplaced

end Script

end TradeLocal.Shell
