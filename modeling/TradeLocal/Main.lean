import TradeLocal.Tool

/-!
# The program

The command line and the environment are those of the process.  The program runs on a host
of its own, in whose working directory the configuration file and the program it names are
laid out as they are found.
-/

namespace TradeLocal.Main

open TradeLocal.Host

def contents? (path : Bytes) : IO (Option Bytes) := do
  match String.fromUTF8? ⟨path.toArray⟩ with
  | none => return none
  | some path =>
      try
        return some (← IO.FS.readBinFile path).toList
      catch _ => return none

def strings (path : String) : IO (List Bytes) := do
  let text := (← contents? (ascii path)).getD []
  return (Bytes.splitOn 0 text).dropLast

/-- A file as it is found, executable if it names an interpreter. -/
def laidFile? (path : Bytes) : IO (Option LaidFile) := do
  return (← contents? path).map fun text => ⟨path, text, (interpreter? text).isSome⟩

def layout (environment : Environment) : IO Layout := do
  let config ← laidFile? (Settings.configPath environment.toVariables)
  let world := World.ofLayout { files := config.toList } environment
  match (Settings.load environment.toVariables world.answer).result with
  | .error _ => return { files := config.toList }
  | .ok settings =>
      let program ← laidFile? settings.program
      return { files := config.toList ++ program.toList }

def write (stream : IO.FS.Stream) (text : Bytes) : IO Unit := do
  stream.write ⟨text.toArray⟩
  stream.flush

end TradeLocal.Main

open TradeLocal in
def main : IO UInt32 := do
  let line := CommandLine.ofSystem (← Main.strings "/proc/self/cmdline")
  let environment : Environment := ⟨← Main.strings "/proc/self/environ"⟩
  let world := Host.World.ofLayout (← Main.layout environment) environment
  let visible := Tool.run Bytes.ofNat world line
  Main.write (← IO.getStdout) visible.out
  Main.write (← IO.getStderr) visible.err
  return visible.ending.shellCode.toUInt32
