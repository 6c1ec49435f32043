import TradeLocal.Numeral.Integer
import TradeLocal.Programs.Options
import TradeLocal.Shell.Pattern

/-!
# Translating bytes

`tr` puts the bytes of one set in place of those of another, deletes those of a set, or squeezes
runs of them.  A set is given as a text of bytes, ranges, classes and repetitions.
-/

namespace TradeLocal.Programs

open TradeLocal.Host TradeLocal.Numeral

inductive SetPart where
  | bytes (members : Bytes)
  | byteClass (name : Bytes) (members : Bytes)
  | equivalent (byte : UInt8)
  /-- A byte repeated; zero times stands for as often as is needed. -/
  | repetition (byte : UInt8) (count : Nat)

namespace SetPart

def isCase : SetPart → Bool
  | byteClass name _ => name = ascii "upper" || name = ascii "lower"
  | _ => false

def isClass : SetPart → Bool
  | byteClass _ _ => true
  | _ => false

/-- The members of a part, where `fill` is how often a byte is repeated as needed. -/
def expand (fill : Nat) : SetPart → Bytes
  | bytes members | byteClass _ members => members
  | equivalent byte => [byte]
  | repetition byte 0 => List.replicate fill byte
  | repetition byte count => List.replicate count byte

end SetPart

/-- A byte of a set as it is written, and whether it had a backslash in front. -/
abbrev SetByte := UInt8 × Bool

def unescapeSet (call : Call) : Nat → Bytes → Work (List SetByte)
  | 0, _ => return []
  | _, [] => return []
  | _, [Byte.backslash] => do
      call.complain (ascii
        "warning: an unescaped backslash at end of string is not portable")
      return [(Byte.backslash, false)]
  | fuel + 1, Byte.backslash :: letter :: rest => do
      let letters := [('a', 7), ('b', 8), ('f', 12), ('n', 10), ('r', 13), ('t', 9), ('v', 11)].map
        fun ((letter : Char), (byte : UInt8)) => (Byte.ofChar letter, byte)
      if isDigitOf 8 letter then
        let digits := ((letter :: rest).take 3).takeWhile (isDigitOf 8)
        let value := ofDigits 8 digits
        if 255 < value then
          let short := digits.take 2
          call.complain (ascii "warning: the ambiguous octal escape \\" ++ digits ++
            ascii " is being\n\tinterpreted as the 2-byte sequence \\0" ++ short ++ ascii ", " ++
            digits.drop 2)
          return ((ofDigits 8 short).toUInt8, true) ::
            (← unescapeSet call fuel ((letter :: rest).drop 2))
        else
          return (value.toUInt8, true) ::
            (← unescapeSet call fuel ((letter :: rest).drop digits.length))
      else
        return ((letters.lookup letter).getD letter, true) :: (← unescapeSet call fuel rest)
  | fuel + 1, byte :: rest => return (byte, false) :: (← unescapeSet call fuel rest)

def classMembers? (name : Bytes) : Option Bytes :=
  (Shell.byteClasses.lookup (Byte.colon :: name ++ ascii ":]")).map fun accepts =>
    ((List.range 256).map Nat.toUInt8).filter accepts

def marked? (mark : UInt8) (text : List SetByte) : Option (Bytes × List SetByte) :=
  let lengths := List.range text.length
  let isClose (index : Nat) : Bool :=
    text[index]? == some (mark, false) && text[index + 1]? == some (93, false)
  (lengths.find? isClose).map fun index =>
    ((text.take index).map Prod.fst, text.drop (index + 2))

/-- The byte and the count of a repetition, and what is behind; no count stands for zero. -/
def repetition? (text : List SetByte) : Option (UInt8 × Bytes × List SetByte) :=
  match text with
  | (byte, _) :: (42, false) :: rest =>
      let digits := rest.takeWhile fun (byte, isEscaped) => byte != 93 || isEscaped
      match rest.drop digits.length with
      | [] => none
      | _ :: behind => some (byte, digits.map Prod.fst, behind)
  | _ => none

def setParts (call : Call) : Nat → List SetByte → Work (List SetPart)
  | 0, _ => return []
  | _, [] => return []
  | fuel + 1, (first, isEscaped) :: rest => do
      let plain (rest : List SetByte) : Work (List SetPart) := do
        match rest with
        | (Byte.hyphen, false) :: (high, _) :: behind =>
            if high < first then
              let shown (byte : UInt8) : Bytes := if isUnseen byte then unseenText byte else [byte]
              call.abandon (ascii "range-endpoints of '" ++ shown first ++ ascii "-" ++
                shown high ++ ascii "' are in reverse collating sequence order")
            else
              let members := (List.range (high.toNat + 1)).drop first.toNat
              return .bytes (members.map Nat.toUInt8) :: (← setParts call fuel behind)
        | rest => return .bytes [first] :: (← setParts call fuel rest)
      if first != 91 || isEscaped then plain rest
      else
        let repeated : Work (List SetPart) := do
          match repetition? rest with
          | none => plain rest
          | some (byte, digits, behind) => do
              let base := if digits.head? == some 48 then 8 else 10
              if !digits.all (isDigitOf base) then
                call.abandon (ascii "invalid repeat count " ++ quoted digits ++
                  ascii " in [c*n] construct")
              else
                return .repetition byte (ofDigits base digits) :: (← setParts call fuel behind)
        match rest with
        | (58, false) :: inside =>
            match marked? Byte.colon inside with
            | none => repeated
            | some (name, behind) =>
                match classMembers? name with
                | some members =>
                    return .byteClass name members :: (← setParts call fuel behind)
                | none =>
                    if (repetition? rest).isSome then repeated
                    else if name.isEmpty then
                      call.abandon (ascii "missing character class name '[::]'")
                    else call.abandon (ascii "invalid character class " ++ quoted name)
        | (61, false) :: inside =>
            match marked? Byte.equals inside with
            | none => repeated
            | some (name, behind) =>
                match name with
                | [byte] => return .equivalent byte :: (← setParts call fuel behind)
                | name =>
                    if (repetition? rest).isSome then repeated
                    else if name.isEmpty then
                      call.abandon (ascii "missing equivalence class character '[==]'")
                    else
                      call.abandon (name ++
                        ascii ": equivalence class operand must be a single character")
        | _ => repeated

def readSet (call : Call) (text : Bytes) : Work (List SetPart) := do
  let bytes ← unescapeSet call (text.length + 1) text
  setParts call (bytes.length + 1) bytes

def complement (set : Bytes) : Bytes :=
  ((List.range 256).map Nat.toUInt8).filter fun byte => !set.contains byte

/-- Where the classes of upper or lower case letters begin in the members of parts. -/
def casePlaces (fill : Nat) (parts : List SetPart) : List Nat :=
  (parts.foldl
    (fun (place, found) part =>
      (place + (part.expand fill).length, if part.isCase then place :: found else found))
    (0, ([] : List Nat))).2.reverse

def translation (call : Call) (isComplement truncates : Bool) (first second : List SetPart) :
    Work (Bytes × Bytes) := do
  let own := first.flatMap (SetPart.expand 0)
  let source := if isComplement then complement own else own
  let fixed := (second.flatMap (SetPart.expand 0)).length
  let fill := source.length - fixed
  let target := second.flatMap (SetPart.expand fill)
  let fills := second.countP fun part =>
    match part with
    | .repetition _ 0 => true
    | _ => false
  let hasEquivalent := second.any fun part =>
    match part with
    | .equivalent _ => true
    | _ => false
  if 1 < fills then
    call.abandon (ascii "only one [c*] repeat construct may appear in string2")
  if hasEquivalent then
    call.abandon (ascii "[=c=] expressions may not appear in string2 when translating")
  if second.any fun part => part.isClass && !part.isCase then
    call.abandon (ascii ("when translating, the only character classes that may appear in\n" ++
      "string2 are 'upper' and 'lower'"))
  let places := casePlaces 0 first
  if !isComplement && (casePlaces fill second).any fun place => !places.contains place then
    call.abandon (ascii "misaligned [:upper:] and/or [:lower:] construct")
  if target.length < source.length && !truncates then
    if target.isEmpty then
      call.abandon (ascii "when not truncating set1, string2 must be non-empty")
    if (second.getLast?.map SetPart.isClass).getD false then
      call.abandon (ascii ("when translating with string1 longer than string2,\n" ++
        "the latter string must not end with a character class"))
  let extended :=
    if truncates then target
    else target ++ List.replicate (source.length - target.length) (target.getLastD 0)
  if isComplement && first.any SetPart.isClass &&
      (extended.length != source.length ||
        extended.any fun byte => byte != extended.headD 0) then
    call.abandon (ascii ("when translating with complemented character classes,\n" ++
      "string2 must map all characters in the domain to one"))
  return (source.take extended.length, extended.take source.length)

/-- What each byte is put in place of; of several the last one counts. -/
def translationTable (source target : Bytes) : Array UInt8 :=
  (source.zip target).foldl (fun table (byte, new) => table.setIfInBounds byte.toNat new)
    ((List.range 256).map Nat.toUInt8).toArray

def squeeze (set : Bytes) (text : Bytes) : Bytes :=
  let members := (List.range 256).toArray.map fun value => set.contains value.toUInt8
  (text.foldl
    (fun (done : Bytes) byte =>
      if done.head? == some byte && (members[byte.toNat]?).getD false then done else byte :: done)
    []).reverse

def translate (call : Call) : Work Nat := do
  let read ← call.parseFront
    [.of "c" "complement" .nothing, .of "c" "" .nothing, .of "C" "" .nothing,
      .of "d" "delete" .nothing, .of "s" "squeeze-repeats" .nothing,
      .of "t" "truncate-set1" .nothing]
  let isComplement := read.has "c" || read.has "C"
  let deletes := read.has "d"
  let squeezes := read.has "s"
  let isTranslating := !deletes && (!squeezes || read.operands.length == 2)
  let least := if deletes == squeezes then 2 else 1
  let greatest := if deletes && !squeezes then 1 else 2
  match read.operands with
  | [] => call.missOperand
  | operands => do
      if operands.length < least then
        call.complain (ascii "missing operand after " ++ quoted (operands.getLastD []))
        Call.tell (ascii (if deletes then
            "Two strings must be given when both deleting and squeezing repeats.\n"
          else "Two strings must be given when translating.\n"))
        call.referToHelp
      if greatest < operands.length then
        call.complain (ascii "extra operand " ++ quoted (operands[greatest]?.getD []))
        if operands.length == 2 then
          Call.tell (ascii
            "Only one string may be given when deleting without squeezing repeats.\n")
        call.referToHelp
      let first ← readSet call (operands.headD [])
      let second ← readSet call (operands[1]?.getD [])
      if first.any fun part =>
          match part with
          | .repetition _ 0 => true
          | _ => false then
        call.abandon (ascii "the [c*] repeat construct may not appear in string1")
      let own := first.flatMap (SetPart.expand 0)
      let set := if isComplement then complement own else own
      let other := second.flatMap (SetPart.expand 0)
      let change : Bytes → Bytes ←
        if isTranslating then do
          let (source, target) ← translation call isComplement (read.has "t") first second
          let table := translationTable source target
          let translated (text : Bytes) : Bytes :=
            text.map fun byte => (table[byte.toNat]?).getD byte
          pure fun text => if squeezes then squeeze target (translated text) else translated text
        else
          pure fun text =>
            let kept := if deletes then text.filter fun byte => !set.contains byte else text
            if squeezes then squeeze (if deletes then other else set) kept else kept
      match ← Work.readAll 0 with
      | .ok text => do
          call.putNow (change text)
          return 0
      | .error error => call.abandon (ascii "read error: " ++ error.text)

end TradeLocal.Programs
