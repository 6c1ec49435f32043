import TradeLocal.Bytes

/-!
# Regular expressions

What a regular expression matches.  All ends that a match from one place may have are listed,
those of more turns of a repetition before those of fewer; the longest match is wanted.
-/

namespace TradeLocal

inductive Boundary where
  | lineStart
  | lineEnd
  | textStart
  | textEnd
  | wordStart
  | wordEnd
  | wordEdge
  | noWordEdge
  deriving DecidableEq, Repr

inductive Regex where
  | empty
  | member (accepts : UInt8 → Bool)
  | boundary (boundary : Boundary)
  | group (number : Nat) (body : Regex)
  /-- What a group has matched. -/
  | back (number : Nat)
  | sequence (first second : Regex)
  | choice (first second : Regex)
  | repetition (least : Nat) (greatest : Option Nat) (body : Regex)

namespace Regex

structure Place where
  /-- How many bytes are in front. -/
  position : Nat
  /-- The byte in front, if there is one. -/
  before : Option UInt8
  rest : Bytes
  /-- Where groups have begun and ended, the latest first. -/
  groups : List (Nat × Nat × Nat) := []

structure Manner where
  text : Bytes
  ignoresCase : Bool := false
  /-- Whether lines within the text have starts and ends of their own. -/
  isMultiline : Bool := false

namespace Place

def step (place : Place) (byte : UInt8) (rest : Bytes) : Place :=
  { place with position := place.position + 1, before := some byte, rest }

def advance : Nat → Place → Place
  | 0, place => place
  | count + 1, place =>
      match place.rest with
      | [] => place
      | byte :: rest => advance count (place.step byte rest)

def group? (place : Place) (number : Nat) : Option (Nat × Nat) :=
  place.groups.lookup number

def satisfies (place : Place) (manner : Manner) (boundary : Boundary) : Bool :=
  let isBehind := place.before.any Byte.isName
  let isAhead := place.rest.head?.any Byte.isName
  match boundary with
  | .lineStart =>
      place.before.isNone || (manner.isMultiline && place.before == some Byte.newline)
  | .lineEnd =>
      place.rest.isEmpty || (manner.isMultiline && place.rest.head? == some Byte.newline)
  | .textStart => place.before.isNone
  | .textEnd => place.rest.isEmpty
  | .wordStart => !isBehind && isAhead
  | .wordEnd => isBehind && !isAhead
  | .wordEdge => isBehind != isAhead
  | .noWordEdge => isBehind == isAhead

end Place

/-- Places without those that say the same as an earlier one. -/
def distinct (places : List Place) : List Place :=
  (places.foldl
    (fun (kept : List Place) place =>
      if kept.any fun other => other.position == place.position && other.groups == place.groups
      then kept else place :: kept)
    []).reverse

/-- The places behind a number of turns.  A turn that does not get on is the last one. -/
def turns (body : Place → List Place) : Nat → Nat → Option Nat → Place → List Place
  | 0, _, _, place => [place]
  | fuel + 1, least, greatest, place =>
      match least, greatest with
      | least + 1, greatest =>
          (body place).flatMap (turns body fuel least (greatest.map (· - 1)))
      | 0, some 0 => [place]
      | 0, greatest =>
          let further := (body place).filter fun next => place.position < next.position
          further.flatMap (turns body fuel 0 (greatest.map (· - 1))) ++ [place]

/-- The places behind a run of accepted bytes, the last one first. -/
def run (accepts : UInt8 → Bool) : Nat → Nat → Option Nat → List Place → Place → List Place
  | 0, _, _, found, place => place :: found
  | fuel + 1, least, greatest, found, place =>
      let found' := if least == 0 then place :: found else found
      match greatest, place.rest with
      | some 0, _ | _, [] => found'
      | greatest, byte :: rest =>
          if accepts byte then
            run accepts fuel (least - 1) (greatest.map (· - 1)) found' (place.step byte rest)
          else found'

def ends (manner : Manner) : Regex → Place → List Place
  | empty, place => [place]
  | member accepts, place =>
      match place.rest with
      | [] => []
      | byte :: rest => if accepts byte then [place.step byte rest] else []
  | boundary condition, place => if place.satisfies manner condition then [place] else []
  | group number body, place =>
      (ends manner body place).map fun after =>
        { after with
          groups := (number, place.position, after.position) ::
            after.groups.filter (·.1 != number) }
  | back number, place =>
      match place.group? number with
      | none => []
      | some (start, finish) =>
          let piece := (manner.text.drop start).take (finish - start)
          let ahead := place.rest.take piece.length
          let isSame :=
            if manner.ignoresCase then piece.map Byte.toLower == ahead.map Byte.toLower
            else piece == ahead
          if isSame then [place.advance piece.length] else []
  | sequence first second, place => distinct ((ends manner first place).flatMap (ends manner second))
  | choice first second, place => distinct (ends manner first place ++ ends manner second place)
  | repetition least greatest (member accepts), place =>
      run accepts (place.rest.length + 1) least greatest [] place
  | repetition least greatest body, place =>
      distinct (turns (ends manner body) (place.rest.length + least + 1) least greatest place)

/-- The longest of the matches, the first of several. -/
def longest? (places : List Place) : Option Place :=
  places.foldl
    (fun best place =>
      match best with
      | none => some place
      | some best => if best.position < place.position then some place else some best)
    none

structure Found where
  start : Nat
  finish : Place

/-- The longest of the first matches from a place on. -/
def search (regex : Regex) (manner : Manner) : Nat → Place → Option Found
  | 0, _ => none
  | fuel + 1, place =>
      match longest? (ends manner regex place) with
      | some finish => some ⟨place.position, finish⟩
      | none =>
          match place.rest with
          | [] => none
          | byte :: rest => search regex manner fuel (place.step byte rest)

def Place.start (text : Bytes) : Place :=
  { position := 0, before := none, rest := text }

def find? (regex : Regex) (manner : Manner) : Option Found :=
  regex.search manner (manner.text.length + 1) (.start manner.text)

def matchStart? (regex : Regex) (manner : Manner) : Option Place :=
  longest? (ends manner regex (.start manner.text))

def Place.groupText? (place : Place) (text : Bytes) (number : Nat) : Option Bytes :=
  (place.group? number).map fun (start, finish) => (text.drop start).take (finish - start)

end Regex

end TradeLocal
