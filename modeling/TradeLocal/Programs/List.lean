import TradeLocal.Programs.Columns
import TradeLocal.Programs.Mode
import TradeLocal.Programs.Remove
import TradeLocal.Programs.Sort
import TradeLocal.Shell.Pattern

/-!
# Listing directories

`ls` writes the names in directories, one on a line or in columns.  Operands that are no
directories come first.
-/

namespace TradeLocal.Programs

open TradeLocal.Host

/-- The exit codes when something below an operand could not be listed, and when an operand
could not. -/
def listTrouble : Nat := 2

structure Item where
  name : Bytes
  number : Nat
  node : Node

structure Listing where
  call : Call
  read : Arguments

namespace Listing

def has (listing : Listing) (key : String) : Bool :=
  listing.read.has key

def last? (listing : Listing) (keys : List String) : Option Given :=
  listing.read.options.reverse.find? fun given => keys.any fun key => given.key == ascii key

def choice? (listing : Listing) (letters : List (String × String)) (word : String)
    (choices : List (List String)) : Option String :=
  (listing.last? (word :: letters.map Prod.fst)).bind fun given =>
    match letters.find? fun (letter, _) => given.key == ascii letter with
    | some (_, choice) => some choice
    | none =>
        given.argument.bind fun argument =>
          (choices.find? (·.any fun name => argument.isPrefixOf (ascii name))).bind (·.head?)

def indicatorWords : List (List String) :=
  [["none"], ["slash"], ["file-type"], ["classify"]]

def quotingWords : List (List String) :=
  [["literal"], ["shell"], ["shell-always"], ["shell-escape"], ["shell-escape-always"], ["c"],
    ["c-maybe"], ["escape"], ["locale"], ["clocale"]]

def formatWords : List (List String) :=
  [["verbose", "long"], ["commas"], ["horizontal", "across"], ["vertical"], ["single-column"]]

def sortWords : List (List String) :=
  [["none"], ["time"], ["size"], ["extension"], ["version"], ["width"]]

def timeWords : List (List String) :=
  [["atime", "access", "use"], ["ctime", "status"], ["mtime", "modification"],
    ["birth", "creation"]]

def whenWords : List (List String) :=
  [["always", "yes", "force"], ["never", "no", "none"], ["auto", "tty", "if-tty"]]

def mark (listing : Listing) (node : Node) : Bytes :=
  let indicator :=
    match listing.last? ["F", "p", "file-type", "indicator-style"] with
    | none => none
    | some given =>
        if given.key == ascii "F" then
          if given.argument.all fun word => whenWords.head?.any
              (·.any fun name => word.isPrefixOf (ascii name)) then some "classify"
          else none
        else
          listing.choice? [("p", "slash"), ("file-type", "file-type"), ("F", "classify")]
            "indicator-style" indicatorWords
  match indicator with
  | none | some "none" => []
  | some indicator =>
      match node with
      | .directory _ _ => [Byte.slash]
      | .link _ => if indicator == "slash" then [] else [Byte.atSign]
      | .file _ _ | .program _ =>
          if indicator == "classify" && node.isExecutable then ascii "*" else []
      | .device _ => []

def between (quote : UInt8) (name : Bytes) : Bytes :=
  let shown (byte : UInt8) : Bytes :=
    if isUnseen byte then unseenText byte
    else if byte == quote || byte == Byte.backslash then [Byte.backslash, byte]
    else [byte]
  quote :: name.flatMap shown ++ [quote]

def escaped (name : Bytes) : Bytes :=
  name.flatMap fun byte =>
    if isUnseen byte then unseenText byte
    else if byte == Byte.backslash || byte == Byte.space then [Byte.backslash, byte]
    else [byte]

/-- A name in single quotes as a shell would take it, in which all bytes stand for themselves. -/
def inQuotes (name : Bytes) : Bytes :=
  if isPlainInQuotes name then Byte.doubleQuote :: name ++ [Byte.doubleQuote]
  else
    Byte.singleQuote :: name.flatMap (fun byte =>
      if byte == Byte.singleQuote then ascii "'\\''" else [byte]) ++ [Byte.singleQuote]

def shown (listing : Listing) (name : Bytes) : Bytes :=
  let hides := (listing.last? ["q", "show-control-chars"]).any (·.key == ascii "q")
  let literal := if hides then name.map fun byte =>
    if isUnseen byte then Byte.question else byte else name
  match listing.choice? [("Q", "c"), ("b", "escape"), ("N", "literal"), ("zero", "literal")]
      "quoting-style" quotingWords with
  | some "shell" => if isPlainName name then literal else inQuotes literal
  | some "shell-always" => inQuotes literal
  | some "shell-escape" => shownName name
  | some "shell-escape-always" => quotedName name
  | some "c" | some "clocale" => between Byte.doubleQuote name
  | some "c-maybe" =>
      if name.any fun byte => isUnseen byte || byte == Byte.doubleQuote then
        between Byte.doubleQuote name
      else name
  | some "locale" => between Byte.singleQuote name
  | some "escape" => escaped name
  | _ => literal

def ending (name : Bytes) : Bytes :=
  let back := name.reverse.takeWhile (· != Byte.ofChar '.')
  if back.length == name.length then [] else Byte.ofChar '.' :: back.reverse

def size : Node → Nat
  | .file text _ => text.length
  | .link target => target.length
  | .directory _ _ => 4096
  | .program _ | .device _ => 0

def order (listing : Listing) : String :=
  (listing.choice? [("S", "size"), ("X", "extension"), ("U", "none"), ("f", "none"),
    ("t", "time"), ("v", "version")] "sort" sortWords).getD "name"

def sorted (listing : Listing) (items : List Item) : List Item :=
  let isBefore (left right : Item) : Bool := !(right.name < left.name)
  let byName := items.mergeSort isBefore
  let ordered :=
    match listing.order with
    | "size" => byName.mergeSort fun left right => size right.node ≤ size left.node
    | "extension" =>
        byName.mergeSort fun left right => !(ending right.name < ending left.name)
    | "version" =>
        byName.mergeSort fun left right => Key.compareVersions left.name right.name ≠ .gt
    | "width" =>
        byName.mergeSort fun left right =>
          (listing.shown left.name).length ≤ (listing.shown right.name).length
    | "none" => items
    | _ => byName
  let ordered :=
    if listing.has "r" && listing.order ≠ "none" then ordered.reverse else ordered
  if listing.has "group-directories-first" && listing.order ≠ "none" then
    let (directories, others) := ordered.partition fun item => item.node.isDirectory
    directories ++ others
  else ordered

inductive Arrangement where
  | single
  | commas
  /-- One on a line with all that is known of it. -/
  | long
  /-- In columns, which are filled one after the other or together. -/
  | columns (areFilled : Bool)
  deriving DecidableEq

def arrangement (listing : Listing) : Arrangement :=
  let isLong := ["l", "n", "g", "o"].any listing.has
  let letters := [("m", "commas"), ("C", "vertical"), ("x", "horizontal"), ("l", "long"),
    ("n", "long"), ("g", "long"), ("o", "long")] ++
    if isLong then [] else [("1", "single-column"), ("zero", "single-column")]
  match listing.choice? letters "format" formatWords with
  | some "commas" => .commas
  | some "verbose" | some "long" => .long
  | some "vertical" => .columns true
  | some "horizontal" => .columns false
  | _ => .single

def lines (listing : Listing) : Columns :=
  { width? :=
      match (listing.read.last? "w").bind Bytes.toNat? with
      | some 0 => none
      | some width => some width
      | none => some 80
    tab := ((listing.read.last? "T").bind Bytes.toNat?).getD 8
    ending := if listing.has "zero" then 0 else Byte.newline }

def blocks : Node → Nat
  | .file text _ => (text.length + 4095) / 4096 * 4
  | .directory _ _ => 4
  | _ => 0

def linkCount (files : Files) (item : Item) : Nat :=
  match item.node with
  | .directory entries _ =>
      2 + (entries.filter fun (_, number) => (files.node? number).any Node.isDirectory).length
  | _ =>
      max 1 (files.nodes.foldl
        (fun count node =>
          match node with
          | .directory entries _ => count + (entries.filter (·.2 == item.number)).length
          | _ => count)
        0)

def kindLetter : Node → UInt8
  | .directory _ _ => Byte.ofChar 'd'
  | .link _ => Byte.ofChar 'l'
  | .device _ => Byte.ofChar 'c'
  | .file _ _ | .program _ => Byte.hyphen

/-- The time that is shown for files, of which none is known. -/
def timeText : Bytes := ascii "Jan  1 00:00"

def facts (listing : Listing) (files : Files) (item : Item) : List Bytes :=
  let user := if listing.has "n" then ascii "0" else ascii "root"
  [kindLetter item.node :: modeText item.node.mode, Bytes.ofNat (linkCount files item)] ++
    (if listing.has "g" then [] else [user]) ++
    (if listing.has "o" || listing.has "G" then [] else [user]) ++
    [Bytes.ofNat (size item.node)]

def write (listing : Listing) (here : Location) (items others : List Item) : Work Unit := do
  let items := listing.sorted items
  let files ← Work.files
  let texts := items.map fun item =>
    (if listing.has "Z" then ascii "? " else []) ++ listing.shown item.name ++
      (if listing.arrangement == .long then [] else listing.mark item.node)
  let ending := listing.lines.ending
  unless texts.isEmpty do
    match listing.arrangement with
    | .single => Call.put (texts.flatMap (· ++ [ending]))
    | .commas => Call.put (listing.lines.commas texts)
    | .columns areFilled => Call.put (listing.lines.table areFilled texts)
    | .long =>
        let rows := (items ++ others).map (listing.facts files)
        let count := (rows.headD []).length
        let isRight := (List.range count).map fun column => column == 1 || column + 1 == count
        let fronts := Columns.aligned isRight rows
        for (front, text, item) in fronts.zip (texts.zip items) do
          let behind :=
            match item.node with
            | .link target =>
                let led := (find files here item.name).toOption.map Found.node
                ascii " -> " ++ listing.shown target ++ (led.map listing.mark).getD []
            | node => listing.mark node
          Call.put (front ++ Byte.space :: timeText ++ Byte.space :: text ++ behind ++ [ending])

def isListed (listing : Listing) (name : Bytes) : Bool :=
  let showsAll := listing.has "a" || listing.has "A" || listing.has "f"
  let patterns := listing.read.options.filterMap fun given =>
    if given.key == ascii "I" || (given.key == ascii "hide" && !showsAll) then given.argument
    else none
  (showsAll || name.head? != some (Byte.ofChar '.')) &&
    !(listing.has "B" && name.getLast? == some (Byte.ofChar '~')) &&
    !patterns.any fun pattern =>
      Shell.matchPattern pattern name

def writeDirectory (listing : Listing) : Nat → Bool → Bool → Bytes → Work Bool
  | 0, _, _, _ => return false
  | fuel + 1, isFirst, isNamed, path => do
      match find (← Work.files) (← Work.here) path with
      | .error error => do
          listing.call.complain (ascii "cannot open directory " ++ quotedName path ++ ascii ": " ++
            error.text)
          return false
      | .ok found => do
          let files ← Work.files
          unless isFirst do Call.put [Byte.newline]
          if isNamed then Call.put (listing.shown path ++ [Byte.colon, Byte.newline])
          let entries :=
            match found.node with
            | .directory entries _ => entries
            | _ => []
          let items := entries.filterMap fun (name, number) =>
            if listing.isListed name then
              (files.node? number).map fun node => (⟨name, number, node⟩ : Item)
            else none
          let dots :=
            if (listing.has "a" && listing.read.lastOf? ["a", "A"] == some (ascii "a")) ||
                listing.has "f" then
              let above? := files.found? found.location.dropLast
              [⟨ascii ".", found.number, found.node⟩,
                ⟨ascii "..", (above?.map Found.number).getD found.number,
                  (above?.map Found.node).getD found.node⟩]
            else []
          if listing.arrangement == .long then
            Call.put (ascii "total " ++
              Bytes.ofNat ((dots ++ items).foldl (fun sum item => sum + blocks item.node) 0) ++
              [listing.lines.ending])
          listing.write found.location (dots ++ items) []
          if listing.has "R" then
            let below := (listing.sorted items).filter fun item => item.node.isDirectory
            let results ← below.mapM fun item =>
              writeDirectory listing fuel false true (Programs.below path item.name)
            return results.all id
          else return true

def look (listing : Listing) (path : Bytes) : Work (Option Item) := do
  let files ← Work.files
  let here ← Work.here
  let looksAtLink := !listing.has "L" && !listing.has "H" &&
    (listing.has "d" || listing.has "F" || listing.arrangement == .long)
  let target := find files here path
  let own := findEntry files here path
  let result :=
    match looksAtLink, listing.has "L", target, own with
    | true, _, _, own => own
    | false, false, .error _, .ok own => .ok own
    | false, _, target, _ => target
  match result with
  | .ok found => return some ⟨path, found.number, found.node⟩
  | .error error => do
      listing.call.complain (ascii "cannot access " ++ quotedName path ++ ascii ": " ++ error.text)
      return none

end Listing

def listForms : List OptionForm :=
  ["1", "C", "x", "l", "g", "o", "n", "G", "f", "i", "s", "h", "k", "t", "S", "X", "U", "u", "c",
      "v", "H", "L", "N", "Z", "m", "p"].map (OptionForm.of · "" .nothing) ++
    [.of "a" "all" .nothing, .of "A" "almost-all" .nothing, .of "b" "escape" .nothing,
      .of "B" "ignore-backups" .nothing, .of "d" "directory" .nothing, .of "F" "" .nothing,
      .of "F" "classify" .optional, .of "" "file-type" .nothing, .of "I" "ignore" .argument,
      .of "" "hide" .argument, .of "q" "hide-control-chars" .nothing,
      .of "Q" "quote-name" .nothing, .of "r" "reverse" .nothing, .of "R" "recursive" .nothing,
      .of "w" "width" .argument, .of "T" "tabsize" .argument, .of "" "color" .optional,
      .of "" "format" .argument, .of "" "sort" .argument, .of "" "time" .argument,
      .of "" "time-style" .argument, .of "" "group-directories-first" .nothing,
      .of "" "full-time" .nothing, .of "" "indicator-style" .argument,
      .of "" "quoting-style" .argument, .of "" "show-control-chars" .nothing,
      .of "" "author" .nothing, .of "" "block-size" .argument, .of "" "zero" .nothing,
      .of "h" "human-readable" .nothing, .of "i" "inode" .nothing, .of "s" "size" .nothing,
      .of "n" "numeric-uid-gid" .nothing, .of "G" "no-group" .nothing, .of "N" "literal" .nothing,
      .of "Z" "context" .nothing, .of "" "si" .nothing, .of "L" "dereference" .nothing,
      .of "H" "dereference-command-line" .nothing,
      .of "" "dereference-command-line-symlink-to-dir" .nothing,
      .of "" "hyperlink" .optional]

def inspectListing (call : Call) (given : Given) : Work Unit := do
  if let some word := given.argument then
    let choices := [("sort", Listing.sortWords), ("format", Listing.formatWords),
      ("time", Listing.timeWords), ("indicator-style", Listing.indicatorWords),
      ("quoting-style", Listing.quotingWords), ("color", Listing.whenWords),
      ("hyperlink", Listing.whenWords), ("F", Listing.whenWords)]
    for (key, words) in choices do
      if given.key == ascii key then
        let name := if key == "F" then "classify" else key
        let _ ← call.choose ("--" ++ name) words word
    let isNumber := (Bytes.toNat? word).isSome
    if given.key == ascii "w" && !isNumber then
      call.abandon (ascii "invalid line width: " ++ quoted word)
    if given.key == ascii "T" && !isNumber then
      call.abandon (ascii "invalid tab size: " ++ quoted word)

def list (call : Call) : Work Nat := do
  let call := { call with trouble := listTrouble }
  let read ← call.parse listForms fun _ given => inspectListing call given
  let listing : Listing := ⟨call, read⟩
  let operands := if read.operands.isEmpty then [ascii "."] else read.operands
  let looked ← operands.mapM listing.look
  let items := looked.filterMap id
  let (directories, files) :=
    if read.has "d" then ([], items) else items.partition fun item => item.node.isDirectory
  unless files.isEmpty do listing.write (← Work.here) files directories
  let isNamed := 1 < operands.length || read.has "R"
  let mut isFirst := files.isEmpty
  let mut isComplete := true
  for item in listing.sorted directories do
    isComplete := (← listing.writeDirectory treeDepth isFirst isNamed item.name) && isComplete
    isFirst := false
  return if looked.any Option.isNone then listTrouble else if isComplete then 0 else 1

end TradeLocal.Programs
