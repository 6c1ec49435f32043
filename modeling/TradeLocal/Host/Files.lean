import TradeLocal.Failure
import TradeLocal.Host.Utility

/-!
# Files

The files of a host are a table of nodes: directories, plain files, symbolic links, and the
few objects of the system itself.  A directory gives names to nodes by their numbers, so two
names may stand for one node, and a node without a name is still there for those who have
opened it.  A location is a path from the root without links and dots.
-/

namespace TradeLocal.Host

inductive Device where
  /-- Swallows what is written and is empty when read. -/
  | null
  /-- Swallows what is written and never ends when read. -/
  | zero
  /-- Has no room for anything that is written. -/
  | full
  /-- The terminal of the process that asks, which has none. -/
  | terminal
  /-- What the process that asks has open under a number. -/
  | descriptor (number : Nat)
  deriving DecidableEq, Repr

/-- What a name in a directory stands for.  A mode holds the permission bits. -/
inductive Node where
  | file (text : Bytes) (mode : Nat)
  | program (utility : Utility)
  | device (device : Device)
  | link (target : Bytes)
  | directory (entries : List (Bytes × Nat)) (mode : Nat)
  deriving DecidableEq, Repr

abbrev Location := List Bytes

namespace Node

def emptyDirectory : Node :=
  directory [] 0o755

/-- A file that may be read by all and written by its owner, and executed by all if so
wanted. -/
def plain (text : Bytes) (executable : Bool) : Node :=
  file text (if executable then 0o755 else 0o644)

def isDirectory : Node → Bool
  | directory _ _ => true
  | _ => false

def isPlain : Node → Bool
  | file _ _ | program _ => true
  | _ => false

def isDevice : Node → Bool
  | device _ => true
  | _ => false

def mode : Node → Nat
  | file _ mode | directory _ mode => mode
  | program _ => 0o755
  | device _ => 0o666
  | link _ => 0o777

/-- May be executed, or entered. -/
def isExecutable (node : Node) : Bool :=
  node.isDirectory || node.mode &&& 0o111 != 0

def hasContents : Node → Bool
  | file text _ => !text.isEmpty
  | program _ | directory _ _ => true
  | _ => false

def names : Node → List Bytes
  | directory entries _ =>
      (entries.map Prod.fst).mergeSort fun left right => !(right < left)
  | _ => []

end Node

/-- The nodes of a host by their numbers.  The root is number zero. -/
structure Files where
  nodes : Array Node := #[.emptyDirectory]

namespace Files

def root : Nat := 0

def node? (files : Files) (number : Nat) : Option Node :=
  files.nodes[number]?

def child? (files : Files) (directory : Nat) (name : Bytes) : Option Nat :=
  match files.node? directory with
  | some (.directory entries _) => entries.lookup name
  | _ => none

/-- The number of the node at a location, not following links. -/
def at? (files : Files) (location : Location) : Option Nat :=
  location.foldlM files.child? root

def nodeAt? (files : Files) (location : Location) : Option Node :=
  (files.at? location).bind files.node?

def replace (files : Files) (number : Nat) (new : Node) : Files :=
  ⟨files.nodes.setIfInBounds number new⟩

def add (files : Files) (new : Node) : Nat × Files :=
  (files.nodes.size, ⟨files.nodes.push new⟩)

/-- Replace what a name stands for in a list of entries, or add the name at its end. -/
def insertEntry (name : Bytes) (number : Nat) : List (Bytes × Nat) → List (Bytes × Nat)
  | [] => [(name, number)]
  | (other, present) :: rest =>
      if other = name then (name, number) :: rest
      else (other, present) :: insertEntry name number rest

def enter (files : Files) (directory : Nat) (name : Bytes) (number : Nat) : Files :=
  match files.node? directory with
  | some (.directory entries mode) =>
      files.replace directory (.directory (insertEntry name number entries) mode)
  | _ => files

def forget (files : Files) (directory : Nat) (name : Bytes) : Files :=
  match files.node? directory with
  | some (.directory entries mode) =>
      files.replace directory (.directory (entries.filter (·.1 != name)) mode)
  | _ => files

def putBelow (new : Node) (files : Files) (directory : Nat) : Location → Files
  | [] => files.replace directory new
  | name :: rest =>
      match files.child? directory name with
      | some number => putBelow new files number rest
      | none =>
          match rest with
          | [] =>
              let (number, files) := files.add new
              files.enter directory name number
          | _ :: _ =>
              let (number, files) := files.add .emptyDirectory
              putBelow new (files.enter directory name number) number rest

def put (files : Files) (new : Node) (location : Location) : Files :=
  putBelow new files root location

end Files

end TradeLocal.Host
