import TradeLocal.Expansion.Piece

/-!
# Environments

The environment of a process is a list of entries `name=value`.  A look-up takes the first
entry that begins with the name and an equals sign.
-/

namespace TradeLocal

structure Environment where
  entries : List Bytes := []
  deriving DecidableEq, Repr

namespace Environment

/-- An entry ends at its first NUL. -/
def entry (name value : Bytes) : Bytes :=
  Bytes.cutAtNul (name ++ Byte.equals :: value)

def valueFor? (name entry : Bytes) : Option Bytes :=
  if (name ++ [Byte.equals]).isPrefixOf entry then some (entry.drop (name.length + 1)) else none

/-- The value of a name.  The name ends at its first NUL, and the empty name has no
value. -/
def get? (environment : Environment) (name : Bytes) : Option Bytes :=
  match Bytes.cutAtNul name with
  | [] => none
  | name => environment.entries.findSome? (valueFor? name)

def nameOf (entry : Bytes) : Bytes :=
  entry.takeWhile (· != Byte.equals)

def isSettable (name : Bytes) : Bool :=
  !name.isEmpty && !name.contains Byte.equals

/-- The environment with a variable set.  A variable of the same name is replaced where it
stands. -/
def set (environment : Environment) (name value : Bytes) : Environment :=
  let name := Bytes.cutAtNul name
  let new := entry name value
  if !isSettable name then environment
  else if (environment.entries.map nameOf).contains name then
    ⟨environment.entries.map fun present => if nameOf present = name then new else present⟩
  else ⟨environment.entries ++ [new]⟩

def ofPairs (pairs : List (Bytes × Bytes)) : Environment :=
  pairs.foldl (fun (environment : Environment) (name, value) => environment.set name value) {}

def toVariables (environment : Environment) : Variables :=
  environment.get?

end Environment

/-- Values of variables given by a table of names and values, read exactly. -/
def Variables.ofPairs (pairs : List (Bytes × Bytes)) : Variables := fun name =>
  pairs.lookup name

end TradeLocal
