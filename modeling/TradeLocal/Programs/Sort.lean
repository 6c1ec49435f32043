import TradeLocal.Numeral.Floating
import TradeLocal.Programs.Layout

/-!
# Sorting

`sort` orders lines by keys.  A key is a part of the line, compared byte by byte or as a number
of some kind; lines with equal keys are compared as a whole.
-/

namespace TradeLocal.Programs

open TradeLocal.Host TradeLocal.Numeral

def sortTrouble : Nat := 2

structure FieldPlace where
  /-- How many fields are passed over. -/
  fields : Nat := 0
  /-- How many bytes are passed over. -/
  bytes : Nat := 0
  skipsBlanks : Bool := false

structure Key where
  start : FieldPlace := {}
  /-- Where the key ends; without bytes, at the end of the field. -/
  finish? : Option FieldPlace := none
  letters : Bytes := []

namespace Key

def has (key : Key) (letter : Char) : Bool :=
  key.letters.contains (Byte.ofChar letter)

def skipField (separator? : Option UInt8) (line : Bytes) : Bytes :=
  match separator? with
  | some separator => (line.dropWhile (· != separator)).drop 1
  | none =>
      let isGap (byte : UInt8) : Bool := Byte.isBlank byte || byte == Byte.newline
      (line.dropWhile isGap).dropWhile fun byte => !isGap byte

def skipFields (separator? : Option UInt8) : Nat → Bytes → Bytes
  | 0, line => line
  | count + 1, line => skipFields separator? count (skipField separator? line)

def restAt (separator? : Option UInt8) (place : FieldPlace) (line : Bytes) : Bytes :=
  let rest := skipFields separator? place.fields line
  (if place.skipsBlanks then rest.dropWhile Byte.isBlank else rest).drop place.bytes

def part (separator? : Option UInt8) (key : Key) (line : Bytes) : Bytes :=
  let rest := restAt separator? key.start line
  match key.finish? with
  | none => rest
  | some finish =>
      let behind :=
        if finish.bytes == 0 then
          let before := skipFields separator? (finish.fields - 1) line
          match separator? with
          | some separator => if finish.fields == 0 then line
              else before.dropWhile (· != separator)
          | none => skipFields none finish.fields line
        else
          restAt separator? { finish with fields := finish.fields - 1 } line
      rest.take (rest.length - behind.length)

def plain (key : Key) (text : Bytes) : Bytes :=
  let kept := text.filter fun byte =>
    !((key.has 'd' && !(Byte.isBlank byte || Byte.isLetter byte || Byte.isDigit byte)) ||
      (key.has 'i' && !(32 ≤ byte && byte ≤ 126)))
  if key.has 'f' then kept.map Byte.toUpper else kept

/-- A decimal number as a whole number of units of the last of some places. -/
def scaled (places : Nat) (text : Bytes) : Int :=
  let text := text.dropWhile Byte.isBlank
  let (isNegative, digits) :=
    match text with
    | Byte.hyphen :: digits => (true, digits)
    | digits => (false, digits)
  let whole := digits.takeWhile Byte.isDigit
  let part :=
    match digits.drop whole.length with
    | 46 :: part => part.takeWhile Byte.isDigit
    | _ => []
  let padded := part ++ List.replicate (places - part.length) 48
  let value := Int.ofNat (ofDigits 10 (whole ++ padded))
  if isNegative then -value else value

def placesOf (text : Bytes) : Nat :=
  ((text.dropWhile (· != Byte.ofChar '.')).drop 1).length

def months : List Bytes :=
  ["JAN", "FEB", "MAR", "APR", "MAY", "JUN", "JUL", "AUG", "SEP", "OCT", "NOV", "DEC"].map ascii

/-- The place of a month in the year; 0 if it is none. -/
def month (text : Bytes) : Nat :=
  let upper := (text.dropWhile Byte.isBlank).map Byte.toUpper
  (months.findIdx? (·.isPrefixOf upper)).elim 0 (· + 1)

def power (text : Bytes) : Nat :=
  let text := text.dropWhile fun byte => Byte.isBlank byte || byte == Byte.hyphen
  let rest := text.dropWhile fun byte => Byte.isDigit byte || byte == Byte.ofChar '.'
  match rest with
  | letter :: _ =>
      if letter == Byte.ofChar 'k' then 1
      else ((ascii "KMGTPEZYRQ").findIdx? (· == letter)).elim 0 (· + 1)
  | [] => 0

def compareInt (left right : Int) : Ordering :=
  if left < right then .lt else if left == right then .eq else .gt

/-- Compare numbers as they are written, without regard to their length. -/
def compareNumbers (left right : Bytes) : Ordering :=
  let places := max (placesOf left) (placesOf right)
  compareInt (scaled places left) (scaled places right)

def compareBytes (left right : Bytes) : Ordering :=
  if left < right then .lt else if left = right then .eq else .gt

/-- Compare floating-point numbers; what is none comes first. -/
def compareFloating (left right : Bytes) : Ordering :=
  let rank (text : Bytes) : Nat × Floating :=
    match Floating.read? .extended text with
    | none => (0, .ofNat 0)
    | some ⟨.undefined _, _, _⟩ => (1, .ofNat 0)
    | some ⟨value, _, _⟩ => (2, value)
  let (rank, value) := rank left
  let (otherRank, other) := match Floating.read? .extended right with
    | none => (0, Floating.ofNat 0)
    | some ⟨.undefined _, _, _⟩ => (1, Floating.ofNat 0)
    | some ⟨value, _, _⟩ => (2, value)
  if rank != otherRank then compareInt rank otherRank
  else if value.isLess other then .lt
  else if other.isLess value then .gt
  else .eq

def versionPieces : Nat → Bytes → List (Bytes × Nat)
  | 0, _ => []
  | _, [] => []
  | fuel + 1, text =>
      let front := text.takeWhile fun byte => !Byte.isDigit byte
      let digits := (text.drop front.length).takeWhile Byte.isDigit
      (front, ofDigits 10 digits) ::
        versionPieces fuel (text.drop (front.length + digits.length))

def versionRank (byte : UInt8) : Nat :=
  if byte == Byte.ofChar '~' then 0
  else if Byte.isLetter byte then byte.toNat + 1
  else byte.toNat + 256

/-- Compare versions: digits as numbers, the rest by rank. -/
def compareVersions (left right : Bytes) : Ordering :=
  let keyOf (text : Bytes) : List (List Nat × Nat) :=
    (versionPieces (text.length + 1) text).map fun (front, value) =>
      (front.map versionRank ++ [1], value)
  let left := keyOf left
  let right := keyOf right
  let rec go : List (List Nat × Nat) → List (List Nat × Nat) → Ordering
    | [], [] => .eq
    | [], _ :: _ => .lt
    | _ :: _, [] => .gt
    | (front, value) :: rest, (other, otherValue) :: others =>
        if front < other then .lt
        else if other < front then .gt
        else if value < otherValue then .lt
        else if otherValue < value then .gt
        else go rest others
  go left right

def compare (key : Key) (left right : Bytes) : Ordering :=
  let result :=
    if key.has 'n' then compareNumbers left right
    else if key.has 'g' then compareFloating left right
    else if key.has 'M' then compareInt (month left) (month right)
    else if key.has 'h' then
      let sign (text : Bytes) : Int :=
        compareNumbersSign (compareNumbers text [48])
      let weight (text : Bytes) : Int := sign text * (Int.ofNat (power text) + 1)
      if weight left != weight right then compareInt (weight left) (weight right)
      else compareNumbers left right
    else if key.has 'V' then compareVersions left right
    else compareBytes (key.plain left) (key.plain right)
  if key.has 'r' then result.swap else result
where
  /-- The sign of a number as it compares with zero. -/
  compareNumbersSign : Ordering → Int
    | .lt => -1
    | .eq => 0
    | .gt => 1

end Key

structure Sorting where
  keys : List Key
  separator? : Option UInt8
  isReversed : Bool
  isStable : Bool
  isUnique : Bool

namespace Sorting

def compareKeys (sorting : Sorting) (left right : Bytes) : Ordering :=
  sorting.keys.foldl
    (fun result key =>
      match result with
      | .eq => key.compare (key.part sorting.separator? left) (key.part sorting.separator? right)
      | result => result)
    .eq

def compare (sorting : Sorting) (left right : Bytes) : Ordering :=
  let result := if sorting.keys.isEmpty then .eq else sorting.compareKeys left right
  match result with
  | .eq =>
      if !sorting.keys.isEmpty && (sorting.isStable || sorting.isUnique) then .eq
      else
        let whole := Key.compareBytes left right
        if sorting.isReversed then whole.swap else whole
  | result => result

/-- The lines of files in order.  Files that are merged are in order themselves. -/
def sort (sorting : Sorting) (isMerged : Bool) (files : List (List Bytes)) : List Bytes :=
  let precedes (left right : Bytes) : Bool := sorting.compare left right != .gt
  let sorted :=
    if isMerged then files.foldl (List.merge · · precedes) []
    else files.flatten.mergeSort precedes
  if sorting.isUnique then
    (sorted.foldl
      (fun (done : List Bytes) line =>
        match done with
        | last :: _ => if sorting.compare last line == .eq then done else line :: done
        | [] => [line])
      []).reverse
  else sorted

def disorder? (sorting : Sorting) : Nat → List Bytes → Option (Nat × Bytes)
  | number, first :: second :: rest =>
      let result := sorting.compare first second
      if result == .gt || (sorting.isUnique && result == .eq) then some (number + 1, second)
      else sorting.disorder? (number + 1) (second :: rest)
  | _, _ => none

end Sorting

def keyLetters : Bytes := ascii "bdfgiMhnRrV"

def readKey (call : Call) (text : Bytes) : Work Key := do
  let count (what : String) (text : Bytes) : Work (Nat × Bytes) := do
    let digits := text.takeWhile Byte.isDigit
    if digits.isEmpty then
      call.abandon (ascii what ++ ascii ": invalid count at start of " ++ quoted text)
    else return (ofDigits 10 digits, text.drop digits.length)
  let bad {α : Type} (what : String) : Work α :=
    call.abandon (ascii what ++ ascii ": invalid field specification " ++ quoted text)
  let (field, rest) ← count "invalid number at field start" text
  if field == 0 then bad "field number is zero"
  let (byte, rest) ←
    match rest with
    | 46 :: rest => do
        let (byte, rest) ← count "invalid number after '.'" rest
        if byte == 0 then bad "character offset is zero"
        pure (byte, rest)
    | rest => pure (1, rest)
  let letters := rest.takeWhile keyLetters.contains
  let start : FieldPlace :=
    { fields := field - 1, bytes := byte - 1, skipsBlanks := letters.contains (Byte.ofChar 'b') }
  match rest.drop letters.length with
  | [] => return { start, letters }
  | 44 :: rest => do
      let (field, rest) ← count "invalid number after ','" rest
      if field == 0 then bad "field number is zero"
      let (byte, rest) ←
        match rest with
        | 46 :: rest => count "invalid number after '.'" rest
        | rest => pure (0, rest)
      let others := rest.takeWhile keyLetters.contains
      if others.length != rest.length then bad "stray character in field spec"
      else
        let finish : FieldPlace :=
          { fields := field, bytes := byte
            skipsBlanks := others.contains (Byte.ofChar 'b') }
        return { start, finish? := some finish, letters := letters ++ others }
  | _ => bad "stray character in field spec"

def sortWords : List (String × Char) :=
  [("general-numeric", 'g'), ("human-numeric", 'h'), ("month", 'M'), ("numeric", 'n'),
    ("random", 'R'), ("version", 'V')]

def sortLetters (call : Call) (given : Given) : Work Bytes := do
  if given.key == ascii "sort" then
    let word ←
      call.choose "--sort" (sortWords.map fun (word, _) => [word]) (given.argument.getD [])
    return ((sortWords.lookup word).map Byte.ofChar).toList
  else return keyLetters.filter fun letter => given.key == [letter]

/-- How a file is checked for order: with `c` what is out of order is shown. -/
def checkLetter? (call : Call) (given : Given) : Work (Option Char) := do
  if given.key == ascii "c" then return some 'c'
  else if given.key == ascii "C" then return some 'C'
  else if given.key == ascii "check" then
    match given.argument with
    | none => return some 'c'
    | some argument =>
        match ← call.choose "--check" [["quiet", "silent"], ["diagnose-first"]] argument with
        | "quiet" => return some 'C'
        | _ => return some 'c'
  else return none

def refuseOptions {α : Type} (call : Call) (letters : Bytes) : Work α :=
  call.abandon (ascii "options '-" ++ letters ++ ascii "' are incompatible")

def checkKey (call : Call) (key : Key) : Work Unit := do
  let has (letters : String) : Bool := (ascii letters).any key.letters.contains
  let ways := [has "n", has "g", has "h", has "M", has "V" || has "R" || has "di"].filter id
  if 1 < ways.length then
    let ignored := if has "d" then ascii "d" else ascii "i"
    let shown := (ascii "dfghiMnRV").filter fun letter =>
      key.letters.contains letter && ((ascii "di").contains letter → ignored.contains letter)
    refuseOptions call shown

/-- Take over how lines are compared where a key does not say it. -/
def Key.inherit (letters : Bytes) (key : Key) : Key :=
  if key.letters.isEmpty then
    let skipsBlanks := letters.contains (Byte.ofChar 'b')
    { key with
      letters
      start := { key.start with skipsBlanks }
      finish? := key.finish?.map fun finish => { finish with skipsBlanks } }
  else key

def sort (call : Call) : Work Nat := do
  let call := { call with trouble := sortTrouble }
  let read ← call.parse
    [.of "b" "ignore-leading-blanks" .nothing, .of "c" "" .nothing, .of "" "check" .optional,
      .of "C" "" .nothing, .of "d" "dictionary-order" .nothing, .of "f" "ignore-case" .nothing,
      .of "g" "general-numeric-sort" .nothing, .of "h" "human-numeric-sort" .nothing,
      .of "i" "ignore-nonprinting" .nothing, .of "k" "key" .argument, .of "m" "merge" .nothing,
      .of "M" "month-sort" .nothing, .of "n" "numeric-sort" .nothing,
      .of "o" "output" .argument, .of "r" "reverse" .nothing, .of "R" "random-sort" .nothing,
      .of "s" "stable" .nothing, .of "S" "buffer-size" .argument,
      .of "t" "field-separator" .argument, .of "T" "temporary-directory" .argument,
      .of "u" "unique" .nothing, .of "V" "version-sort" .nothing, .of "y" "" .argument,
      .of "z" "zero-terminated" .nothing, .of "" "sort" .argument, .of "" "parallel" .argument,
      .of "" "debug" .nothing, .of "" "files0-from" .argument]
    fun earlier given => do
      let _ ← sortLetters call given
      if let some letter ← checkLetter? call given then
        for other in (← earlier.mapM (checkLetter? call)).filterMap id do
          if other != letter then refuseOptions call (ascii "cC")
      if given.key == ascii "o" then
        for other in earlier do
          if other.key == given.key && other.argument != given.argument then
            call.abandon (ascii "multiple output files specified")
      if given.key == ascii "k" then
        let _ ← readKey call (given.argument.getD [])
      if given.key == ascii "t" then
        let _ ← separatorOf (given.argument.getD [])
  let separator? ← (read.last? "t").mapM separatorOf
  let letters := (← read.options.mapM (sortLetters call)).flatten
  let checks := (← read.options.mapM (checkLetter? call)).filterMap id
  let keys ← (read.options.filter (·.key == ascii "k")).mapM fun given =>
    readKey call (given.argument.getD [])
  let isDefault := letters.all (· == Byte.ofChar 'r')
  let keys :=
    if !keys.isEmpty then keys.map (Key.inherit letters)
    else if isDefault then []
    else [{ start := { skipsBlanks := letters.contains (Byte.ofChar 'b') }, letters }]
  keys.forM (checkKey call)
  let sorting : Sorting :=
    { keys, separator?, isReversed := read.has "r", isStable := read.has "s"
      isUnique := read.has "u" }
  let ending : UInt8 := if read.has "z" then 0 else Byte.newline
  let contents (failure : String) (path : Bytes) : Work (List Bytes) := do
    match ← Call.contents path with
    | .ok text => do
        let pieces := Bytes.splitOn ending text
        return if pieces.getLast? == some [] then pieces.dropLast else pieces
    | .error error =>
        let failure :=
          if error == .isDirectory then "read failed: "
          else if path = [Byte.hyphen] then "stat failed: "
          else failure
        call.abandon (ascii failure ++ shownName path ++ ascii ": " ++ error.text)
  match checks.getLast? with
  | some letter =>
      if let _ :: word :: _ := read.operands then
        call.abandon (ascii "extra operand " ++ quoted word ++ ascii " not allowed with -" ++
          [Byte.ofChar letter])
      if read.has "o" then refuseOptions call [Byte.ofChar letter, Byte.ofChar 'o']
      let path := read.files.headD []
      match sorting.disorder? 1 (← contents "open failed: " path) with
      | none => return 0
      | some (number, line) => do
          unless letter == 'C' do
            call.complain (shownName path ++ ascii ":" ++ Bytes.ofNat number ++
              ascii ": disorder: " ++ line)
          return 1
  | none => do
      let isMerged := read.has "m"
      for path in read.files do
        if path ≠ [Byte.hyphen] && !(find (← Work.files) (← Work.here) path).isOk then
          let _ ← contents "cannot read: " path
      let files ← read.files.mapM (contents (if isMerged then "open failed: " else "cannot read: "))
      if let some path := read.last? "o" then
        match ← Work.openFile .writing path with
        | .ok number => Work.setDescriptor 1 number
        | .error error =>
            call.abandon (ascii "open failed: " ++ shownName path ++ ascii ": " ++ error.text)
      Call.put ((sorting.sort isMerged files).flatMap (· ++ [ending]))
      return 0
where
  /-- The byte between fields. -/
  separatorOf : Bytes → Work UInt8
    | [] => call.abandon (ascii "empty tab")
    | [byte] => return byte
    | [92, 48] => return 0
    | text => call.abandon (ascii "multi-character tab " ++ quoted text)

end TradeLocal.Programs
