import TradeLocal.Host.Path

/-!
# Properties of files

What may be asked about the file at a path.  Each property has a letter.
-/

namespace TradeLocal.Host

def hasProperty (files : Files) (here : Location) (letter : UInt8) (path : Bytes) : Bool :=
  let node? := (find files here path).toOption.map Found.node
  let isOneOf (letters : String) : Bool := (ascii letters).contains letter
  if isOneOf "erwOG" then node?.isSome
  else if isOneOf "Lh" then isLink files here path
  else if isOneOf "d" then node?.any Node.isDirectory
  else if isOneOf "f" then node?.any Node.isPlain
  else if isOneOf "s" then node?.any Node.hasContents
  else if isOneOf "x" then node?.any Node.isExecutable
  else if isOneOf "c" then node?.any Node.isDevice
  else if isOneOf "u" then node?.any (·.mode &&& 0o4000 != 0)
  else if isOneOf "g" then node?.any (·.mode &&& 0o2000 != 0)
  else if isOneOf "k" then node?.any (·.mode &&& 0o1000 != 0)
  else false

def isSameFile (files : Files) (here : Location) (left right : Bytes) : Bool :=
  match find files here left, find files here right with
  | .ok left, .ok right => left.number == right.number
  | _, _ => false

end TradeLocal.Host
