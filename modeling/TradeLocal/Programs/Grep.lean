import TradeLocal.Programs.Part
import TradeLocal.Programs.Remove
import TradeLocal.Regex.Reading

/-!
# Searching for lines

`grep` writes the lines that some pattern matches, or says which files have such lines.
-/

namespace TradeLocal.Programs

open TradeLocal.Host TradeLocal.Numeral

def searchTrouble : Nat := 2

/-- The size that stands for one that is not known. -/
def unknownSize : Nat := 9223372036854775807

structure Searching where
  patterns : List Regex
  ignoresCase : Bool
  wholeWords : Bool
  wholeLines : Bool

namespace Searching

def isWord (text : Bytes) (start finish : Nat) : Bool :=
  !(start != 0 && text[start - 1]?.any Byte.isName) && !text[finish]?.any Byte.isName

def matchAt? (searching : Searching) (line : Bytes) (place : Regex.Place) (pattern : Regex) :
    Option Nat :=
  let ends := (pattern.ends { text := line, ignoresCase := searching.ignoresCase } place).map
    Regex.Place.position
  let fitting := ends.filter fun finish =>
    (!searching.wholeLines || (place.position == 0 && finish == line.length)) &&
      (!searching.wholeWords || isWord line place.position finish)
  fitting.foldl (fun best finish => some (max finish (best.getD finish))) none

/-- The first and longest match in a line from a place on. -/
def next? (searching : Searching) (line : Bytes) : Nat → Regex.Place → Option (Nat × Nat)
  | 0, _ => none
  | fuel + 1, place =>
      let ends := searching.patterns.filterMap (searching.matchAt? line place)
      match ends with
      | finish :: others => some (place.position, others.foldl max finish)
      | [] =>
          match place.rest with
          | [] => none
          | byte :: rest => searching.next? line fuel (place.step byte rest)

def accepts (searching : Searching) (line : Bytes) : Bool :=
  (searching.next? line (line.length + 1) (.start line)).isSome

def parts (searching : Searching) (line : Bytes) : Nat → Regex.Place → List (Nat × Bytes)
  | 0, _ => []
  | fuel + 1, place =>
      match searching.next? line (line.length + 1) place with
      | none => []
      | some (start, finish) =>
          let further := place.advance (max (start + 1) finish - place.position)
          let rest := if place.rest.isEmpty then [] else searching.parts line fuel further
          if start == finish then rest
          else (start, (line.drop start).take (finish - start)) :: rest

end Searching

def spellContext (arguments : List Bytes) : List Bytes :=
  arguments.map fun word =>
    match word with
    | Byte.hyphen :: digits =>
        if !digits.isEmpty && digits.all Byte.isDigit then ascii "-C" ++ digits else word
    | _ => word

structure Report where
  call : Call
  read : Arguments
  /-- Whether the lines are wanted that do not match. -/
  inverts : Bool
  before : Nat
  after : Nat
  limit : Option Nat
  showsNames : Bool
  /-- What is written between lines that do not follow each other. -/
  separator : Option Bytes

namespace Report

def has (report : Report) (key : String) : Bool :=
  report.read.has key

def front (report : Report) (width : Nat) (name : Bytes) (mark : UInt8) (number offset : Nat)
    (isEmpty : Bool) : Bytes :=
  let shown (key : String) (number : Nat) : Bytes :=
    if report.has key then
      let digits := Bytes.ofNat number
      List.replicate (width - digits.length) Byte.space ++ digits ++ [mark]
    else []
  let front := (if report.showsNames then name ++ [if report.has "Z" then 0 else mark] else []) ++
    shown "n" number ++ shown "b" offset
  if report.has "T" && !front.isEmpty && !isEmpty then front ++ [9] else front

def placed (lines : List Bytes) : List (Nat × Nat × Bytes) :=
  (lines.foldl
    (fun (number, offset, done) line =>
      (number + 1, offset + line.length + 1, (number, offset, line) :: done))
    (1, 0, ([] : List (Nat × Nat × Bytes)))).2.2.reverse

def binaryKind (report : Report) : Bytes :=
  match report.read.options.reverse.find? fun given =>
      ["a", "I", "binary-files"].any fun key => given.key == ascii key with
  | some ⟨_, some kind⟩ => kind
  | some given => if given.key == ascii "a" then ascii "text" else ascii "without-match"
  | none => ascii "binary"

/-- Write what a search has found in a text, after it has found something in others or has not.
Says how many lines were selected.  In a binary text a line ends at a null, too.  The `size` is
that of the file, if it is known. -/
def write (report : Report) (searching : Searching) (isFound : Bool) (size : Nat)
    (name text : Bytes) : Work Nat := do
  let width := if report.has "T" then (Bytes.ofNat size).length else 0
  let ending : UInt8 := if report.has "z" then 0 else Byte.newline
  let kind := report.binaryKind
  let isBinary := kind != ascii "text" && !report.has "z" && text.contains 0
  let text := if isBinary then text.map fun byte => if byte == 0 then ending else byte else text
  let pieces := Bytes.splitOn ending text
  let lines := if pieces.getLast? == some [] then pieces.dropLast else pieces
  let all := if isBinary && kind == ascii "without-match" then [] else placed lines
  let selected := all.filter fun (_, _, line) => searching.accepts line != report.inverts
  let selected := match report.limit with
    | some limit => selected.take limit
    | none => selected
  let count := selected.length
  if report.has "q" then return count
  else if report.has "l" || report.has "L" then
    if (count != 0) == (report.read.lastOf? ["l", "L"] == some (ascii "l")) then
      Call.put (name ++ [if report.has "Z" then 0 else Byte.newline])
    return count
  else if report.has "c" then
    Call.put ((if report.showsNames then name ++ [if report.has "Z" then 0 else Byte.colon]
      else []) ++ Bytes.ofNat count ++ [Byte.newline])
    return count
  else if isBinary && count != 0 then
    report.call.complain (name ++ ascii ": binary file matches")
    return count
  else
    let numbers := selected.map Prod.fst
    let last := numbers.getLastD 0
    let isLimited := report.limit.any (· ≤ count)
    let isNear (number : Nat) : Bool :=
      numbers.any fun other => other ≤ number + report.before && number ≤ other + report.after
    let shown := all.filter fun (number, _, _) =>
      isNear number && (!isLimited || number ≤ last + report.after)
    let hasContext := report.has "A" || report.has "B" || report.has "C"
    let _ ← shown.foldlM
      (fun (previous : Option Nat) (number, offset, line) => do
        let isGap :=
          match previous with
          | some previous => previous + 1 < number
          | none => isFound
        if let some separator := report.separator then
          if hasContext && isGap then Call.put (separator ++ [Byte.newline])
        let isSelected := numbers.contains number
        let mark := bif isSelected then Byte.colon else Byte.hyphen
        let pieces :=
          if !report.has "o" then [(0, line)]
          else if isSelected == report.inverts then []
          else searching.parts line (line.length + 1) (.start line)
        for (start, piece) in pieces do
          Call.put (report.front width name mark number (offset + start) piece.isEmpty ++ piece ++
            [ending])
        return some number)
      none
    return count

end Report

/-- The files below a path, with the paths under which they are shown.  Links are passed over
below the first path unless they are followed. -/
def filesBelow (follows : Bool) :
    Nat → Bool → Bytes → Bytes → Work (List (Bytes × Bytes))
  | 0, _, _, _ => return []
  | fuel + 1, isFirst, path, name => do
      let isFollowed := follows || isFirst
      let finding := if isFollowed then find else findEntry
      match finding (← Work.files) (← Work.here) path with
      | .ok ⟨_, _, .directory entries _⟩ => do
          let found ← entries.mapM fun (entry, _) =>
            filesBelow follows fuel false (below path entry)
              (if name.isEmpty then entry else below name entry)
          return found.flatten
      | .ok ⟨_, _, .link _⟩ => return []
      | _ => return [(path, name)]

def isPassedOver (read : Arguments) (name : Bytes) : Bool :=
  let last := (Bytes.splitOn Byte.slash name).getLastD []
  let matchesSome (key : String) : Bool :=
    read.options.any fun given =>
      given.key == ascii key && given.argument.any fun pattern =>
        Shell.matchPattern pattern name || Shell.matchPattern pattern last
  matchesSome "exclude" || (read.has "include" && !matchesSome "include")

def searchForms : List OptionForm :=
  [.of "E" "extended-regexp" .nothing, .of "F" "fixed-strings" .nothing,
    .of "G" "basic-regexp" .nothing, .of "P" "perl-regexp" .nothing, .of "e" "regexp" .argument,
    .of "f" "file" .argument, .of "i" "ignore-case" .nothing, .of "y" "" .nothing,
    .of "" "no-ignore-case" .nothing, .of "v" "invert-match" .nothing,
    .of "w" "word-regexp" .nothing, .of "x" "line-regexp" .nothing, .of "c" "count" .nothing,
    .of "n" "line-number" .nothing, .of "l" "files-with-matches" .nothing,
    .of "L" "files-without-match" .nothing, .of "h" "no-filename" .nothing,
    .of "H" "with-filename" .nothing, .of "o" "only-matching" .nothing, .of "q" "quiet" .nothing,
    .of "q" "silent" .nothing, .of "s" "no-messages" .nothing, .of "m" "max-count" .argument,
    .of "A" "after-context" .argument, .of "B" "before-context" .argument,
    .of "C" "context" .argument, .of "b" "byte-offset" .nothing, .of "r" "recursive" .nothing,
    .of "R" "dereference-recursive" .nothing, .of "a" "text" .nothing,
    .of "z" "null-data" .nothing, .of "Z" "null" .nothing, .of "T" "initial-tab" .nothing,
    .of "U" "binary" .nothing, .of "I" "" .nothing, .of "" "binary-files" .argument,
    .of "d" "directories" .argument, .of "D" "devices" .argument, .of "" "include" .argument,
    .of "" "exclude" .argument, .of "" "exclude-dir" .argument, .of "" "color" .optional,
    .of "" "colour" .optional, .of "" "label" .argument, .of "" "line-buffered" .nothing,
    .of "" "group-separator" .argument, .of "" "no-group-separator" .nothing,
    .of "V" "version" .nothing]

def searchHelp (name : Bytes) : Bytes :=
  ascii "Usage: " ++ name ++ ascii " [OPTION]... PATTERNS [FILE]...\n" ++
    ascii "Try '" ++ name ++ ascii " --help' for more information.\n"

inductive DirectoryTreatment where
  | read
  | skip
  | recurse
  deriving DecidableEq

def directoryTreatment (read : Arguments) : DirectoryTreatment :=
  match read.options.reverse.find? fun given =>
      ["r", "R", "d"].any fun key => given.key == ascii key with
  | none => .read
  | some ⟨_, none⟩ => .recurse
  | some ⟨_, some word⟩ =>
      if (ascii "s").isPrefixOf word then .skip
      else if (ascii "rec").isPrefixOf word then .recurse
      else .read

def ignoresCase (read : Arguments) : Bool :=
  match read.options.reverse.find? fun given =>
      ["i", "y", "no-ignore-case"].any fun key => given.key == ascii key with
  | some given => given.key ≠ ascii "no-ignore-case"
  | none => false

def patternsOf (call : Call) (read : Arguments) (texts : List Bytes) : Work (List Regex) := do
  let ignoresCase := ignoresCase read
  let kind := read.lastOf? ["E", "F", "G", "P"]
  if kind == some (ascii "P") && 1 < texts.length then
    call.abandon (ascii "the -P option only supports a single pattern")
  texts.mapM fun text => do
    if kind == some (ascii "F") then
      return text.foldr
        (fun byte rest => .sequence (Regex.Parsing.single { isExtended := false, ignoresCase } byte)
          rest)
        .empty
    else
      let isExtended := kind == some (ascii "E") || kind == some (ascii "P")
      match Regex.compile { isExtended, ignoresCase, takesLoneClosing := true } text with
      | .error mistake => call.abandon mistake.text
      | .ok compiled => do
          if let some operator := compiled.idle.head? then
            call.complain (ascii "warning: " ++
              (if operator == Byte.openBrace then ascii "\x7b...\x7d" else [operator]) ++
              ascii " at start of expression")
          return compiled.regex

def givenPatterns (call : Call) (given : Given) : Work (List Bytes) := do
  let word := given.argument.getD []
  if given.key == ascii "e" then return Bytes.splitOn Byte.newline word
  else if given.key == ascii "f" then
    match ← Call.contents word with
    | .ok text => return lines text
    | .error error => call.abandon (word ++ ascii ": " ++ error.text)
  else return []

def inspectGiven (call : Call) (before : List Given) (given : Given) : Work Unit := do
  let word := given.argument.getD []
  let isKind (given : Given) : Bool := ["E", "F", "G", "P"].any fun key => given.key == ascii key
  if isKind given && before.any fun other => isKind other && other.key != given.key then
    call.abandon (ascii "conflicting matchers specified")
  if given.key == ascii "binary-files" then
    unless ["binary", "text", "without-match"].any fun kind => word == ascii kind do
      call.abandon (ascii "unknown binary-files type")
  if given.key == ascii "D" then
    unless ["read", "skip"].any fun kind => word == ascii kind do
      call.abandon (ascii "unknown devices method")
  if given.key == ascii "d" then
    let _ ← call.choose "--directories" [["read"], ["recurse"], ["skip"]] word searchTrouble
  if ["A", "B", "C"].any fun key => given.key == ascii key then
    if (Bytes.toNat? word).isNone then
      call.abandon (word ++ ascii ": invalid context length argument")
  if given.key == ascii "m" && (readInteger? (some 10) word).all (!·.2.isEmpty) then
    call.abandon (ascii "invalid max count")

def grep (call : Call) : Work Nat := do
  let call := { call with trouble := searchTrouble, helpText? := some (searchHelp call.name) }
  let read ← { call with arguments := spellContext call.arguments }.parse searchForms
    fun before given => do
      inspectGiven call before given
      let _ ← givenPatterns call given
  let context (key : String) : Option Nat := (read.last? key).bind Bytes.toNat?
  let around := (context "C").getD 0
  let limit := (read.last? "m").bind fun word =>
    ((readInteger? (some 10) word).map Prod.fst).bind fun value =>
      if value < 0 then none else some value.toNat
  let isGiven := read.has "e" || read.has "f"
  let (texts, operands) ←
    if isGiven then pure ((← read.options.mapM (givenPatterns call)).flatten, read.operands)
    else
      match read.operands with
      | [] => call.referToHelp
      | pattern :: operands => pure (Bytes.splitOn Byte.newline pattern, operands)
  let isNothing := texts.isEmpty
  let inverts := read.has "v" != isNothing
  let wholeWords := read.has "w" && !isNothing
  let wholeLines := read.has "x" && !isNothing
  let listsOthers := read.lastOf? ["l", "L"] == some (ascii "L")
  let isHopeless := limit == some 0 ||
    (inverts && texts.flatten.isEmpty && !wholeWords && !wholeLines)
  if isHopeless && !listsOthers then return 1
  else
    let patterns ← patternsOf call read texts
    let searching : Searching :=
      { patterns := bif isNothing then [.empty] else patterns
        ignoresCase := ignoresCase read, wholeWords, wholeLines }
    let treatment := directoryTreatment read
    let isRecursive := treatment == .recurse
    let operands :=
      if !operands.isEmpty then operands.map fun path => (path, path)
      else if isRecursive then [(ascii ".", [])]
      else [([Byte.hyphen], [Byte.hyphen])]
    let files ← operands.mapM fun (path, name) => do
      if isRecursive && path != [Byte.hyphen] then
        return (← filesBelow (read.has "R") treeDepth true path name).filter fun (found, _) =>
          found == path || !isPassedOver read found
      else return [(path, name)]
    let files := files.flatten
    let showsNames :=
      match read.lastOf? ["h", "H"] with
      | some key => key == ascii "H"
      | none => 1 < operands.length || files != operands
    let report : Report :=
      { call, read, inverts, before := (context "B").getD around
        after := (context "A").getD around, limit, showsNames
        separator :=
          match read.options.reverse.find? fun given =>
              ["group-separator", "no-group-separator"].any fun key => given.key == ascii key with
          | some given => given.argument
          | none => some (ascii "--") }
    let mut found := false
    let mut failed := false
    for (path, name) in files do
      unless found && read.has "q" do
        let isInput := path = [Byte.hyphen]
        let shown :=
          if isInput then (read.last? "label").getD (ascii "(standard input)") else name
        match ← Call.contents path with
        | .error error => do
            unless error == .isDirectory && treatment != .read && !isInput do
              unless read.has "s" do call.complain (shown ++ ascii ": " ++ error.text)
              failed := true
              if error == .isDirectory then
                let _ ← report.write searching found 0 shown []
        | .ok text => do
            unless !isInput && isPassedOver read path do
              let isPiped := isInput &&
                !((← Work.opened? 0).any fun (_, file) => file.object matches .node _)
              let size := if isPiped then unknownSize else text.length
              let count ← report.write searching found size shown text
              if count != 0 then found := true
    return if failed && !(found && read.has "q") then searchTrouble else if found then 0 else 1

end TradeLocal.Programs
