import TradeLocal.Host.Path

/-!
# Canonical locations

The location that a path comes to when its links and dots are resolved, which may also be asked
for paths whose names do not all stand for something, and the path from one location to another.
-/

namespace TradeLocal.Host

inductive Existing where
  | all
  /-- All but the last one. -/
  | front
  | none
  deriving DecidableEq

structure Resolving where
  existing : Existing
  followsLinks : Bool := true

/-- Whether names behind another one demand that it is a directory: when there is nothing but
dots and slashes up to their end, or up to two dots. -/
def needsDirectory : List Bytes → Bool
  | [] => false
  | name :: rest =>
      if name = ascii ".." then true
      else if name.isEmpty || name = ascii "." then rest.isEmpty || needsDirectory rest
      else false

namespace Resolving

/-- Why a name in a directory cannot be passed, if it cannot.  Where links are left alone only
the last name counts, or one that must stand for a directory. -/
def obstacle? (resolving : Resolving) (files : Files) (location : Location) (name : Bytes)
    (rest : List Bytes) : Option SystemError :=
  if resolving.existing == .none then none
  else
    let problem? : Option SystemError :=
      match follow files linkLimit [] (location ++ [name]) with
      | .error error =>
          if resolving.followsLinks || rest.isEmpty || needsDirectory rest then some error
          else none
      | .ok place =>
          if needsDirectory rest && !(files.nodeAt? place).any Node.isDirectory then
            some .notDirectory
          else none
    if problem? == some .notFound && resolving.existing == .front && rest.all List.isEmpty then
      none
    else problem?

/-- Follow names from a location; `budget` is how many more links may be followed. -/
def walk (resolving : Resolving) (files : Files) (budget : Nat) (here : Location) :
    List Bytes → Except SystemError Location
  | [] => .ok here
  | name :: rest =>
      if name.isEmpty || name = ascii "." then walk resolving files budget here rest
      else if name = ascii ".." then walk resolving files budget here.dropLast rest
      else
        match files.nodeAt? (here ++ [name]), resolving.followsLinks with
        | some (.link target), true =>
            match budget with
            | 0 =>
                if resolving.existing == .none then
                  walk resolving files 0 (here ++ [name]) rest
                else .error .tooManyLinks
            | budget + 1 =>
                walk resolving files budget (if isAbsolute target then [] else here)
                  (components target ++ rest)
        | _, _ =>
            match resolving.obstacle? files here name rest with
            | some error => .error error
            | none => walk resolving files budget (here ++ [name]) rest
termination_by names => (budget, names.length)

def locate (resolving : Resolving) (files : Files) (here : Location) (path : Bytes) :
    Except SystemError Location :=
  if path.isEmpty then .error .notFound
  else resolving.walk files linkLimit (if isAbsolute path then [] else here) (components path)

end Resolving

def relativePath : Location → Location → Bytes
  | name :: start, other :: target =>
      if name = other then relativePath start target
      else Bytes.join Byte.slash (ascii ".." :: start.map (fun _ => ascii "..") ++ other :: target)
  | [], [] => ascii "."
  | start, target => Bytes.join Byte.slash (start.map (fun _ => ascii "..") ++ target)

end TradeLocal.Host
