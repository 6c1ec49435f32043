import TradeLocal.Numeral.Directive
import TradeLocal.Programs.Options

/-!
# Sequences of numbers

`seq` writes the numbers from one to another in equal steps, with as many decimal places as its
operands have.
-/

namespace TradeLocal.Programs

open TradeLocal.Host TradeLocal.Numeral

structure Bound where
  value : Floating
  /-- How many decimal places it is written with; none if that is not to be seen. -/
  places : Option Nat
  /-- How wide it is. -/
  width : Int

def layout (text : Bytes) : Option Nat × Int :=
  let point := Byte.ofChar '.'
  let isMark (byte : UInt8) : Bool := byte == Byte.ofChar 'e' || byte == Byte.ofChar 'E'
  let whole := text.takeWhile fun byte => byte != point && !isMark byte
  let hasPoint := text.contains point
  let part := if hasPoint then ((text.dropWhile (· != point)).drop 1).takeWhile (!isMark ·) else []
  let width : Int := text.length +
    (if !hasPoint then 0
    else if part.isEmpty then -1
    else if whole.getLast?.any Byte.isDigit then 0
    else 1)
  match text.dropWhile (!isMark ·) with
  | [] => (some part.length, width)
  | mark =>
      let power := ((readInteger? (some 10) mark.tail).map Prod.fst).getD 0
      let places := Int.toNat (part.length - power)
      let shift : Int := if power < 0 && (!hasPoint || part.isEmpty) then 1 else 0
      (some places, width - mark.length + shift + power.natAbs)

def bound (call : Call) (word : Bytes) : Work Bound := do
  let invalid {α : Type} : Work α :=
    call.misuse (ascii "invalid floating point argument: " ++ quoted word)
  match Floating.read? .extended word with
  | none => invalid
  | some ⟨value, _, rest⟩ =>
      if !rest.isEmpty then invalid
      else
        let text := word.dropWhile fun byte => Byte.isSpace byte || byte == Byte.plus
        match value with
        | .undefined _ =>
            call.misuse (ascii "invalid 'not-a-number' argument: " ++ quoted word)
        | .infinite _ => return { value, places := some 0, width := 0 }
        | .finite _ _ _ =>
            if text.any (ascii "xX").contains then
              let isWhole := !text.any (ascii ".p").contains
              return { value, places := if isWhole then some 0 else none, width := 0 }
            else
              let (places, width) := layout text
              return { value, places, width }

structure NumberFormat where
  front : Bytes
  directive : Directive
  back : Bytes

def unpaired : Bytes → Bytes
  | Byte.percent :: Byte.percent :: rest => Byte.percent :: unpaired rest
  | byte :: rest => byte :: unpaired rest
  | [] => []

def toDirective : Bytes → Bytes × Bytes
  | Byte.percent :: Byte.percent :: rest =>
      let (front, behind) := toDirective rest
      (Byte.percent :: Byte.percent :: front, behind)
  | Byte.percent :: rest => ([], Byte.percent :: rest)
  | byte :: rest =>
      let (front, behind) := toDirective rest
      (byte :: front, behind)
  | [] => ([], [])

def numberFormat (call : Call) (format : Bytes) : Work NumberFormat := do
  let complain {α : Type} (text : Bytes) : Work α :=
    call.abandon (ascii "format " ++ quoted format ++ text)
  let (front, rest) := toDirective format
  match rest with
  | [] => complain (ascii " has no % directive")
  | _ :: text => do
      let flags := text.takeWhile (ascii "-+#0 '").contains
      let text := text.drop flags.length
      let width := text.takeWhile Byte.isDigit
      let text := text.drop width.length
      let (precision, text) :=
        match text with
        | 46 :: rest =>
            let digits := rest.takeWhile Byte.isDigit
            (some (ofDigits 10 digits), rest.drop digits.length)
        | text => (none, text)
      let text := if text.head? == some (Byte.ofChar 'L') then text.tail else text
      match text with
      | [] => complain (ascii " ends in %")
      | letter :: back =>
          if !(ascii "efgaEFGA").contains letter then
            complain (ascii " has unknown %" ++ letter :: ascii " directive")
          else if !(toDirective back).2.isEmpty then
            complain (ascii " has too many % directives")
          else
            let directive := flags.foldl Directive.addFlag { letter }
            return {
                front := unpaired front
                directive := { directive with width := ofDigits 10 width, precision }
                back := unpaired back }

/-- How many numbers are written at most, and of a sequence without end. -/
def sequenceLimit : Nat := 1000000
def endlessLimit : Nat := 100000

def isPast (step last number : Floating) : Bool :=
  if step.isLess (.ofNat 0) then number.isLess last else last.isLess number

/-- The numbers of a sequence behind one, each the first number and a multiple of the step.  A
number that would be written as the last one belongs to it too, unless that was written. -/
def followers (write : Floating → Bytes) (first step last : Floating) :
    Nat → Nat → Bytes → List Bytes
  | 0, _, _ => []
  | fuel + 1, count, before =>
      let next := Floating.sum .extended first (Floating.product .extended step (.ofNat count))
      let text := write next
      if !isPast step last next then
        text :: followers write first step last fuel (count + 1) text
      else
        let isLast :=
          match Floating.read? .extended text with
          | some ⟨value, _, []⟩ => !value.isLess last && !last.isLess value
          | _ => false
        if isLast && text != before then [text] else []

def defaultDirective (hasEqualWidth : Bool) (first step last : Bound) : Directive :=
  match first.places, step.places, last.places with
  | some own, some stepPlaces, some lastPlaces =>
      let places := max own stepPlaces
      if hasEqualWidth then
        let firstWidth : Int := first.width + places - own +
          (if own == 0 && places != 0 then 1 else 0)
        let lastWidth : Int := last.width + places - lastPlaces +
          (if lastPlaces == 0 && places != 0 then 1
          else if lastPlaces != 0 && places == 0 then -1
          else 0)
        Directive.addFlag
          { letter := Byte.ofChar 'f', precision := some places
            width := (max firstWidth lastWidth).toNat } 48
      else { letter := Byte.ofChar 'f', precision := some places }
  | _, _, _ => { letter := Byte.ofChar 'g' }

/-- The options in front of the numbers, and the numbers.  A number with a hyphen in front is not
an option. -/
def splitNumbers : List Bytes → List Bytes × List Bytes
  | [] => ([], [])
  | word :: rest =>
      let isNumber := word.head? == some Byte.hyphen &&
        (word.drop 1).head?.any fun byte => Byte.isDigit byte || byte == Byte.ofChar '.'
      if isNumber || word.head? != some Byte.hyphen || word = ascii "--" || word.length < 2 then
        ([], word :: rest)
      else
        let takesNext := ["-s", "-f", "-ws", "-wf", "--separator", "--format"].any fun option =>
          ascii option == word
        match takesNext, rest with
        | true, argument :: rest =>
            let (options, numbers) := splitNumbers rest
            (word :: argument :: options, numbers)
        | _, rest =>
            let (options, numbers) := splitNumbers rest
            (word :: options, numbers)

def sequence (call : Call) : Work Nat := do
  let (options, numbers) := splitNumbers call.arguments
  let numbers := if numbers.head? == some (ascii "--") then numbers else ascii "--" :: numbers
  let read ← { call with arguments := options ++ numbers }.parseFront
    [.of "f" "format" .argument, .of "s" "separator" .argument, .of "w" "equal-width" .nothing]
  if let _ :: _ :: _ :: word :: _ := read.operands then call.refuseExtra word
  if read.operands.isEmpty then call.missOperand
  let format? ← (read.last? "f").mapM (numberFormat call)
  if format?.isSome && read.has "w" then
    call.misuse (ascii "format string may not be specified when printing equal width strings")
  let one : Bound := { value := .ofNat 1, places := some 0, width := 1 }
  let (first, step, last) ←
    match read.operands with
    | [last] => do pure (one, one, ← bound call last)
    | [first, last] => do
        let first ← bound call first
        pure (first, one, ← bound call last)
    | first :: word :: last :: _ => do
        let first ← bound call first
        let step ← bound call word
        if let .finite _ 0 _ := step.value then
          call.misuse (ascii "invalid Zero increment value: " ++ quoted word)
        pure (first, step, ← bound call last)
    | [] => pure (one, one, one)
  let format : NumberFormat := format?.getD
    { front := [], directive := defaultDirective (read.has "w") first step last, back := [] }
  let write (number : Floating) : Bytes := format.directive.writeFloating .extended number
  if isPast step.value last.value first.value then return 0
  else
    let start := write first.value
    let limit :=
      match last.value with
      | .infinite _ => endlessLimit
      | _ => sequenceLimit
    let texts := start :: followers write first.value step.value last.value limit 1 start
    Call.put (List.intercalate ((read.last? "s").getD [Byte.newline])
      (texts.map fun text => format.front ++ text ++ format.back) ++ [Byte.newline])
    return 0

end TradeLocal.Programs
