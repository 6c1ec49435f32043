import TradeLocal.Host.Machine

/-!
# Names in directories

What a process may ask of the system about the names in directories: to make them, to take
them away, and to move them.
-/

namespace TradeLocal.Host.Work

/-- The entry at the end of a path, with what it stands for; a name of dots or none is told
apart. -/
structure Spot where
  entry : Entry
  found? : Option Found
  /-- The path ends with a name that can be made or taken away. -/
  isNamed : Bool
  /-- The path has a slash at its end. -/
  isSlashed : Bool

def spot (path : Bytes) : Work (Except SystemError Spot) := do
  let files ← files
  match locateEntry files (← here) path with
  | .error error => return .error error
  | .ok entry =>
      let isNamed :=
        !(entry.name.isEmpty || entry.name = ascii "." || entry.name = ascii "..")
      let found? := (files.child? entry.directory entry.name).bind fun number =>
        (files.node? number).map fun node =>
          (⟨entry.location ++ [entry.name], number, node⟩ : Found)
      return .ok { entry, found?, isNamed, isSlashed := path.getLast? == some Byte.slash }

def unlink (path : Bytes) : Work (Except SystemError Unit) := do
  match ← spot path with
  | .error error => return .error error
  | .ok spot =>
      match spot.isNamed, spot.found? with
      | false, _ => return .error .isDirectory
      | true, none => return .error .notFound
      | true, some found =>
          if found.node.isDirectory then return .error .isDirectory
          else if spot.isSlashed then return .error .notDirectory
          else
            changeFiles fun files => files.forget spot.entry.directory spot.entry.name
            return .ok ()

def removeDirectory (path : Bytes) : Work (Except SystemError Unit) := do
  match ← spot path with
  | .error error => return .error error
  | .ok spot =>
      match spot.isNamed, spot.found? with
      | false, _ =>
          return .error
            (if spot.entry.name.isEmpty then .busy
              else if spot.entry.name = ascii ".." then .notEmpty else .invalidArgument)
      | true, none => return .error .notFound
      | true, some found =>
          match found.node with
          | .directory [] _ => do
              changeFiles fun files => files.forget spot.entry.directory spot.entry.name
              return .ok ()
          | .directory _ _ => return .error .notEmpty
          | _ => return .error .notDirectory

def make (path : Bytes) (new : Node) : Work (Except SystemError Unit) := do
  match ← spot path with
  | .error error => return .error error
  | .ok spot =>
      if !spot.isNamed || spot.found?.isSome then return .error .alreadyExists
      else if spot.isSlashed && !new.isDirectory then return .error .notFound
      else
        changeFiles fun files =>
          let (number, files) := files.add new
          files.enter spot.entry.directory spot.entry.name number
        return .ok ()

def directoryMode : Work Nat :=
  return 0o777 &&& (0o777 - (← process).mask)

def makeDirectory (path : Bytes) : Work (Except SystemError Unit) := do
  make path (.directory [] (← directoryMode))

def makeName (source path : Bytes) : Work (Except SystemError Unit) := do
  match findEntry (← files) (← here) source with
  | .error error => return .error error
  | .ok found =>
      if found.node.isDirectory then return .error .notPermitted
      else
        match ← spot path with
        | .error error => return .error error
        | .ok spot =>
            if !spot.isNamed || spot.found?.isSome then return .error .alreadyExists
            else if spot.isSlashed then return .error .notFound
            else
              changeFiles fun files =>
                files.enter spot.entry.directory spot.entry.name found.number
              return .ok ()

/-- Move a name.  What the new name stood for before is no longer there. -/
def rename (source target : Bytes) : Work (Except SystemError Unit) := do
  match ← spot source, ← spot target with
  | .error error, _ | _, .error error => return .error error
  | .ok old, .ok new =>
      if !old.isNamed || !new.isNamed then return .error .busy
      else
        match old.found? with
        | none => return .error .notFound
        | some moved =>
            let isDirectory := moved.node.isDirectory
            let refusal? : Option SystemError :=
              if (old.isSlashed || new.isSlashed) && !isDirectory then some .notDirectory
              else if isDirectory && moved.location.isPrefixOf new.entry.location then
                some .invalidArgument
              else
                match new.found? with
                | none => none
                | some present =>
                    match isDirectory, present.node with
                    | true, .directory (_ :: _) _ =>
                        if present.number == moved.number then none else some .notEmpty
                    | true, .directory [] _ => none
                    | true, _ => some .notDirectory
                    | false, .directory _ _ => some .isDirectory
                    | false, _ => none
            match refusal? with
            | some error => return .error error
            | none => do
                let isSame := (new.found?.map Found.number) == some moved.number
                unless isSame do
                  changeFiles fun files =>
                    (files.forget old.entry.directory old.entry.name).enter
                      new.entry.directory new.entry.name moved.number
                return .ok ()

def changeMode (found : Found) (mode : Nat) : Work Unit :=
  changeFiles fun files =>
    match found.node with
    | .file text _ => files.replace found.number (.file text mode)
    | .directory entries _ => files.replace found.number (.directory entries mode)
    | _ => files

end TradeLocal.Host.Work
