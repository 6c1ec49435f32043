import TradeLocal.Bytes

/-!
# Builtins

The commands that a shell runs itself, and their names.
-/

namespace TradeLocal.Shell

inductive Builtin where
  | source
  | nothing
  | condition
  | makeAlias
  | continueBackground
  | breakLoop
  | changeDirectory
  | command
  | continueLoop
  | echo
  | eval
  | exec
  | exit
  | exportVariable
  | fail
  | continueForeground
  | getOptions
  | hash
  | jobs
  | kill
  | makeLocal
  | printf
  | directory
  | read
  | readOnly
  | returnFrom
  | set
  | shift
  | times
  | trap
  | succeed
  | type
  | limit
  | mask
  | unalias
  | unset
  | wait
  deriving DecidableEq, Repr

namespace Builtin

def table : List (Bytes × Builtin) :=
  [(".", source), (":", nothing), ("[", condition), ("alias", makeAlias),
    ("bg", continueBackground), ("break", breakLoop), ("cd", changeDirectory),
    ("chdir", changeDirectory), ("command", command), ("continue", continueLoop),
    ("echo", echo), ("eval", eval), ("exec", exec), ("exit", exit), ("export", exportVariable),
    ("false", fail), ("fg", continueForeground), ("getopts", getOptions),
    ("hash", hash), ("jobs", jobs), ("kill", kill), ("local", makeLocal), ("printf", printf),
    ("pwd", directory), ("read", read), ("readonly", readOnly), ("return", returnFrom),
    ("set", set), ("shift", shift), ("test", condition), ("times", times), ("trap", trap),
    ("true", succeed), ("type", type), ("ulimit", limit), ("umask", mask),
    ("unalias", unalias), ("unset", unset), ("wait", wait)].map
    fun (name, builtin) => (ascii name, builtin)

def ofName? (name : Bytes) : Option Builtin :=
  table.lookup name

/-- Assignments before it remain, its failures end the shell, and no function may have its
name. -/
def isSpecial : Builtin → Bool
  | source | nothing | breakLoop | continueLoop | eval | exec | exit | exportVariable | makeLocal
  | readOnly | returnFrom | set | shift | times | trap | unset => true
  | _ => false

/-- It is known before its redirections are made. -/
def isRegular : Builtin → Bool
  | condition | echo | printf | hash | type | limit => false
  | _ => true

/-- Its arguments may give values to variables. -/
def takesAssignments : Builtin → Bool
  | makeAlias | exportVariable | makeLocal | readOnly => true
  | _ => false

end Builtin

end TradeLocal.Shell
