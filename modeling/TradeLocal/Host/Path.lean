import TradeLocal.Host.Files

/-!
# Paths

A path names a location by way of links and dots.  It is followed name by name, and the
first name that cannot be followed decides the error.
-/

namespace TradeLocal.Host

def nameLimit : Nat := 255

def pathLimit : Nat := 4096

def linkLimit : Nat := 40

/-- The names of a path.  A trailing slash leaves an empty name at the end. -/
def components (path : Bytes) : List Bytes :=
  Bytes.splitOn Byte.slash path

def isAbsolute (path : Bytes) : Bool :=
  path.head? == some Byte.slash

def dropSlashes (path : Bytes) : Bytes :=
  (path.reverse.dropWhile (· == Byte.slash)).reverse

/-- Follow names from a directory.  A name that stands for no directory must be the last
one; `budget` is how many more links may be followed. -/
def follow (files : Files) (budget : Nat) (here : Location) :
    List Bytes → Except SystemError Location
  | [] => .ok here
  | name :: rest =>
      if name = [] || name = ascii "." then follow files budget here rest
      else if name = ascii ".." then follow files budget here.dropLast rest
      else if nameLimit < name.length then .error .nameTooLong
      else
        match files.nodeAt? (here ++ [name]) with
        | none => .error .notFound
        | some (.directory _ _) => follow files budget (here ++ [name]) rest
        | some (.link target) =>
            match budget with
            | 0 => .error .tooManyLinks
            | budget + 1 =>
                follow files budget (if isAbsolute target then [] else here)
                  (components target ++ rest)
        | some _ => if rest.isEmpty then .ok (here ++ [name]) else .error .notDirectory
termination_by names => (budget, names.length)

def locate (files : Files) (here : Location) (path : Bytes) : Except SystemError Location :=
  let path := Bytes.cutAtNul path
  if path.isEmpty then .error .notFound
  else if pathLimit ≤ path.length then .error .nameTooLong
  else follow files linkLimit (if isAbsolute path then [] else here) (components path)

structure Found where
  location : Location
  number : Nat
  node : Node

def Files.found? (files : Files) (location : Location) : Option Found :=
  (files.at? location).bind fun number =>
    (files.node? number).map fun node => ⟨location, number, node⟩

def find (files : Files) (here : Location) (path : Bytes) : Except SystemError Found :=
  match locate files here path with
  | .error error => .error error
  | .ok location =>
      match files.found? location with
      | none => .error .notFound
      | some found => .ok found

/-- A name in a directory, whether or not it stands for something. -/
structure Entry where
  location : Location
  /-- The number of the directory. -/
  directory : Nat
  name : Bytes

def locateEntry (files : Files) (here : Location) (path : Bytes) : Except SystemError Entry :=
  let path := Bytes.cutAtNul path
  if path.isEmpty then .error .notFound
  else if pathLimit ≤ path.length then .error .nameTooLong
  else
    let names := components (dropSlashes path)
    match follow files linkLimit (if isAbsolute path then [] else here) names.dropLast with
    | .error error => .error error
    | .ok location =>
        let name := names.getLastD []
        if nameLimit < name.length then .error .nameTooLong
        else
          match files.found? location with
          | some ⟨_, number, .directory _ _⟩ => .ok ⟨location, number, name⟩
          | _ => .error .notDirectory

def findEntry (files : Files) (here : Location) (path : Bytes) : Except SystemError Found :=
  match locateEntry files here path with
  | .error error => .error error
  | .ok ⟨location, directory, name⟩ =>
      if name.isEmpty || name = ascii "." || name = ascii ".." then find files here path
      else
        match files.child? directory name with
        | none => .error .notFound
        | some number =>
            match files.node? number with
            | none => .error .notFound
            | some (.link target) =>
                if path.getLast? == some Byte.slash then find files here path
                else .ok ⟨location ++ [name], number, .link target⟩
            | some node =>
                if path.getLast? == some Byte.slash && !node.isDirectory then .error .notDirectory
                else .ok ⟨location ++ [name], number, node⟩

def isLink (files : Files) (here : Location) (path : Bytes) : Bool :=
  match findEntry files here path with
  | .ok ⟨_, _, .link _⟩ => true
  | _ => false

inductive Place where
  | present (found : Found)
  | absent (entry : Entry)

/-- The place for a file at a path, whose directory must be there.  A link to a place where
nothing is leads to that place. -/
def locatePlace (files : Files) (here : Location) (path : Bytes) :
    Nat → Except SystemError Place
  | 0 => .error .tooManyLinks
  | budget + 1 =>
      match find files here path with
      | .ok found => .ok (.present found)
      | .error .notFound =>
          match locateEntry files here path with
          | .error error => .error error
          | .ok entry =>
              match (files.child? entry.directory entry.name).bind files.node? with
              | some (.link target) => locatePlace files entry.location target budget
              | some _ => .error .notFound
              | none =>
                  if path.getLast? == some Byte.slash then .error .isDirectory
                  else .ok (.absent entry)
      | .error error => .error error

def pathOf (location : Location) : Bytes :=
  if location.isEmpty then [Byte.slash]
  else location.flatMap fun name => Byte.slash :: name

end TradeLocal.Host
