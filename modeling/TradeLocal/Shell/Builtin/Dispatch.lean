import TradeLocal.Shell.Builtin.Condition
import TradeLocal.Shell.Builtin.Directory
import TradeLocal.Shell.Builtin.Jobs
import TradeLocal.Shell.Builtin.Output

/-!
# Running builtins

What each builtin does with the words behind its name.
-/

namespace TradeLocal.Shell

open TradeLocal.Host

namespace Script

def decideCondition (name : Bytes) (words : List Bytes) : Script Nat := do
  match condition (← work Work.files) (← work Work.here) name words with
  | .ok true => return 0
  | .ok false => return 1
  | .error error => fail error.text

/-- The resources of a shell are not limited. -/
def tellLimit (words : List Bytes) : Script Nat := do
  let (_, words) ← options "HSatfdscmlpnvwr" words
  if words.isEmpty then out (ascii "unlimited\n")
  return 0

/-- No time passes for a shell and its children. -/
def tellTimes : Script Nat := do
  let line := ascii "0m0.000000s 0m0.000000s\n"
  out (line ++ line)
  return 0

def perform (nested : Nested) (isTested : Bool) (name : Bytes) (builtin : Builtin)
    (words : List Bytes) : Script Nat :=
  match builtin with
  | .source => source nested words
  | .nothing | .succeed => return 0
  | .fail => return 1
  | .condition => decideCondition name words
  | .makeAlias => setAliases words
  | .continueBackground | .continueForeground => continueJobs words
  | .breakLoop => jumpFromLoop .breakLoop words
  | .continueLoop => jumpFromLoop .continueLoop words
  | .changeDirectory => changeDirectory words
  | .command => describeCommand words
  | .echo => do
      out (echoText words)
      return 0
  | .eval => eval nested isTested words
  | .exec => exec nested words
  | .exit => exit words
  | .exportVariable => markVariables name { isExported := true } Variable.isExported words
  | .readOnly => markVariables name { isReadOnly := true } Variable.isReadOnly words
  | .getOptions => getOptions words
  | .hash => hash words
  | .jobs => jobs nested words
  | .kill => kill nested words
  | .makeLocal => makeAllLocal words
  | .printf => do printf (← withoutOptions words)
  | .directory => tellDirectory words
  | .read => do read (← separators) words
  | .returnFrom => returnFrom words
  | .set => set words
  | .shift => shift words
  | .times => tellTimes
  | .trap => trap words
  | .type => type words
  | .limit => tellLimit words
  | .mask => changeMask words
  | .unalias => removeAliases words
  | .unset => unset words
  | .wait => wait nested words

/-- Run a builtin, and pass on what it has written.  A failure leaves the script if the builtin
is special. -/
def runBuiltin (nested : Nested) (isTested isSpecial : Bool) (name : Bytes) (builtin : Builtin)
    (words : List Bytes) : Script Nat := do
  let before := (← context).command?
  changeContext fun context => { context with command? := some name }
  let result ← attempt do
    let status ← perform nested isTested name builtin words
    let isWritten ← flush
    unless isWritten do complain (name ++ ascii ": I/O error")
    let status := if isWritten then status else status ||| 1
    setStatus status
    return status
  modify fun state =>
    { state with buffer := [], context := { state.context with command? := before } }
  match result with
  | .ok status => return status
  | .error .failure => if isSpecial then throw .failure else status
  | .error leave => throw leave

end Script

end TradeLocal.Shell
