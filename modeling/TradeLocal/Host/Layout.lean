import TradeLocal.Host.Path

/-!
# Layouts

A layout says which directories, files and links there are in a working directory.  Laid
out on a bare system it gives the files that the tool and its children find.
-/

namespace TradeLocal.Host

structure LaidFile where
  path : Bytes
  text : Bytes
  executable : Bool := false
  deriving DecidableEq, Repr

/-- What a working directory holds.  A link is given as its target and its own path. -/
structure Layout where
  directories : List Bytes := []
  files : List LaidFile := []
  links : List (Bytes × Bytes) := []
  deriving DecidableEq, Repr

def systemDirectories : List Location :=
  ["boot", "home", "media", "mnt", "opt", "root", "run", "srv", "sys", "tmp", "var"].map
    fun name => [ascii name]

def systemLinks : List (Location × Bytes) :=
  [([ascii "bin"], ascii "usr/bin"), ([ascii "lib"], ascii "usr/lib"),
    ([ascii "sbin"], ascii "usr/sbin"),
    ([ascii "dev", ascii "fd"], ascii "/proc/self/fd"),
    ([ascii "dev", ascii "stdin"], ascii "/proc/self/fd/0"),
    ([ascii "dev", ascii "stdout"], ascii "/proc/self/fd/1"),
    ([ascii "dev", ascii "stderr"], ascii "/proc/self/fd/2")]

def systemDevices : List (Location × Device) :=
  [([ascii "dev", ascii "null"], .null), ([ascii "dev", ascii "zero"], .zero),
    ([ascii "dev", ascii "full"], .full), ([ascii "dev", ascii "tty"], .terminal)] ++
  (List.range 10).map fun number =>
    ([ascii "proc", ascii "self", ascii "fd", Bytes.ofNat number], .descriptor number)

def workingDirectory : Location :=
  [ascii "work"]

def bareSystem : Files :=
  let programs := Utility.table.map fun (name, utility) =>
    ([ascii "usr", ascii "bin", name], Node.program utility)
  let directories :=
    (workingDirectory :: [ascii "etc"] :: [ascii "usr", ascii "lib"] ::
      [ascii "usr", ascii "sbin"] :: systemDirectories).map (·, Node.emptyDirectory)
  let devices := systemDevices.map fun (location, device) => (location, Node.device device)
  let links := systemLinks.map fun (location, target) => (location, Node.link target)
  (directories ++ programs ++ devices ++ links).foldl
    (fun (files : Files) (location, node) => files.put node location) {}

def plainLocation (here : Location) (path : Bytes) : Location :=
  (components path).foldl
    (fun location name =>
      if name = [] || name = ascii "." then location
      else if name = ascii ".." then location.dropLast
      else location ++ [name])
    (if isAbsolute path then [] else here)

namespace Layout

/-- Put the contents of a layout into a directory: directories first, then files, then
links. -/
def addTo (layout : Layout) (here : Location) (files : Files) : Files :=
  let addDirectory (files : Files) (path : Bytes) : Files :=
    let location := plainLocation here path
    match files.at? location with
    | some _ => files
    | none => files.put .emptyDirectory location
  let addFile (files : Files) (file : LaidFile) : Files :=
    files.put (.plain file.text file.executable) (plainLocation here file.path)
  let addLink (files : Files) (link : Bytes × Bytes) : Files :=
    files.put (.link link.1) (plainLocation here link.2)
  layout.links.foldl addLink
    (layout.files.foldl addFile (layout.directories.foldl addDirectory files))

def root (layout : Layout) : Files :=
  layout.addTo workingDirectory bareSystem

end Layout

end TradeLocal.Host
