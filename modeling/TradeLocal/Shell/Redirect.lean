import TradeLocal.Shell.Expansion

/-!
# Redirections

While a command runs, its descriptors may lead elsewhere.  Words are expanded before the
first redirection is made; what was changed is put back afterwards.
-/

namespace TradeLocal.Shell

open TradeLocal.Host

namespace Script

/-- The descriptor that a word of a redirection names; a hyphen names none. -/
def sourceOf (word : Bytes) : Script (Option Nat) := do
  match word with
  | [Byte.hyphen] => return none
  | [digit] =>
      if Byte.isDigit digit then return some (digit.toNat - 48)
      else failSyntax (← context).readLine .badDescriptor
  | _ => failSyntax (← context).readLine .badDescriptor

def prepare (output : Command → Script Bytes) :
    List Redirection → Script (List Opening)
  | [] => return []
  | redirection :: rest => do
      let opening : Opening ←
        match redirection with
        | .file descriptor access path =>
            pure ⟨descriptor, .file access (← expandText output .single path)⟩
        | .duplicate descriptor source =>
            pure ⟨descriptor, .duplicate (← sourceOf (← expandText output .single source))⟩
        | .document descriptor number =>
            pure ⟨descriptor, .document (((← context).documents[number]?).getD [])⟩
      return opening :: (← prepare output rest)

def failOpening {α : Type} (creates : Bool) (path : Bytes) (error : SystemError) : Script α :=
  let reason :=
    match error with
    | .notFound | .notDirectory =>
        if creates then ascii "Directory nonexistent" else ascii "No such file"
    | error => error.text
  fail (ascii (if creates then "cannot create " else "cannot open ") ++ path ++ ascii ": " ++
    reason)

def openPath (request : Work.Request) (path : Bytes) : Script Nat := do
  match ← work (Work.openFile request path) with
  | .ok number => return number
  | .error error => failOpening request.creates path error

def openKeeping (path : Bytes) : Script Nat := do
  match find (← work Work.files) (← work Work.here) path with
  | .error _ => openPath { writes := true, creates := true, isNew := true } path
  | .ok found =>
      if found.node.isPlain then failOpening true path .alreadyExists
      else openPath { writes := true } path

def redirect (output : Command → Script Bytes) (opening : Opening) : Script Unit := do
  let lead (number : Nat) : Script Unit := work (Work.setDescriptor opening.descriptor number)
  match opening.target with
  | .duplicate none => work (Work.closeDescriptor opening.descriptor)
  | .duplicate (some source) =>
      if source != opening.descriptor then
        match ← work (Work.opened? source) with
        | some (number, _) => lead number
        | none => fail (Bytes.ofNat source ++ ascii ": " ++ SystemError.badDescriptor.text)
  | .document text => do
      let text ← expandText output { isQuoted := true } text
      let (reading, writing) ← work Work.makePipe
      let file? := (← work Work.machine).opened[writing]?
      if let some file := file? then
        let _ ← work (Work.writeOpened writing file text)
      lead reading
  | .file access path =>
      match access with
      | .input => lead (← openPath .reading path)
      | .update => lead (← openPath { reads := true, writes := true, creates := true } path)
      | .append => lead (← openPath .appending path)
      | .overwrite => lead (← openPath .writing path)
      | .output =>
          if ← isOn .noclobber then lead (← openKeeping path)
          else lead (← openPath .writing path)

/-- Make redirections in turn; `false` if one fails, which has then been reported. -/
def redirectAll (output : Command → Script Bytes) (openings : List Opening) : Script Bool := do
  match ← attempt (openings.forM (redirect output)) with
  | .ok () => return true
  | .error .failure => return false
  | .error leave => throw leave

def putBack (descriptors : List Nat) (before : List (Nat × Nat)) : Script Unit := do
  for descriptor in descriptors do
    match before.lookup descriptor with
    | some number => work (Work.setDescriptor descriptor number)
    | none => work (Work.closeDescriptor descriptor)

/-- Do something with redirections, which remain afterwards if so wanted.  What is done is told
whether they could be made. -/
def redirecting {α : Type} (output : Command → Script Bytes) (openings : List Opening)
    (remain : Bool) (script : Bool → Script α) : Script α := do
  match openings with
  | [] => script true
  | openings => do
      let before := (← work Work.process).descriptors
      let result ← attempt do script (← redirectAll output openings)
      match result with
      | .ok value => do
          unless remain do putBack (openings.map Opening.descriptor) before
          return value
      | .error leave => do
          putBack (openings.map Opening.descriptor) before
          throw leave

end Script

end TradeLocal.Shell
