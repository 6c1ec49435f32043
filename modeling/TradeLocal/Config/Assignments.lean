import TradeLocal.Expansion.Piece

/-!
# Assignments

The variables a configuration file has set.  They are kept as the history of what was
assigned, the latest first; the view that matters is `get?`, the value a name has now.
-/

namespace TradeLocal.Config

/-- What has been assigned so far, the latest first. -/
structure Assignments where
  history : List (Bytes × Bytes) := []
  deriving DecidableEq, Repr

namespace Assignments

def get? (assignments : Assignments) (name : Bytes) : Option Bytes :=
  assignments.history.lookup name

def set (assignments : Assignments) (name value : Bytes) : Assignments :=
  ⟨(name, value) :: assignments.history⟩

def ofPairs (pairs : List (Bytes × Bytes)) : Assignments :=
  ⟨pairs.reverse⟩

def override (earlier later : Assignments) : Assignments :=
  ⟨later.history ++ earlier.history⟩

/-- The names that have a value, each once, in byte order. -/
def names (assignments : Assignments) : List Bytes :=
  (assignments.history.map Prod.fst).eraseDups.mergeSort fun left right => !(right < left)

def entries (assignments : Assignments) : List (Bytes × Bytes) :=
  assignments.names.filterMap fun name => (assignments.get? name).map (name, ·)

/-- Values of variables when these assignments shadow an environment.  An empty value
shadows as well. -/
def shadowing (assignments : Assignments) (environment : Variables) : Variables := fun name =>
  (assignments.get? name).or (environment name)

@[simp]
theorem get?_empty (name : Bytes) : ({} : Assignments).get? name = none := rfl

@[simp]
theorem get?_set (assignments : Assignments) (name value other : Bytes) :
    (assignments.set name value).get? other =
      if other = name then some value else assignments.get? other := by
  by_cases same : other = name
  · simp [get?, set, same]
  · have differ : (other == name) = false := by simpa using same
    simp [get?, set, List.lookup_cons, same, differ]

@[simp]
theorem get?_override (earlier later : Assignments) (name : Bytes) :
    (earlier.override later).get? name = (later.get? name).or (earlier.get? name) := by
  simp [get?, override, List.lookup_append]

@[simp]
theorem shadowing_empty (environment : Variables) :
    ({} : Assignments).shadowing environment = environment := by
  funext name
  simp [shadowing]

theorem override_shadowing (earlier later : Assignments) (environment : Variables) :
    (earlier.override later).shadowing environment =
      later.shadowing (earlier.shadowing environment) := by
  funext name
  simp [shadowing, Option.or_assoc]

end Assignments

end TradeLocal.Config
