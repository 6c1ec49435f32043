import TradeLocal.Host.Path
import TradeLocal.Shell.Pattern

/-!
# Fields

What becomes of an expanded word: it is divided into fields at separators that come from
expansions, and a field with a pattern is replaced by the names of the files that match.
-/

namespace TradeLocal.Shell

open TradeLocal.Host

inductive Glyph where
  | byte (value : UInt8) (isQuoted : Bool)
  | mark
  deriving DecidableEq, Repr

/-- How a stretch of an expanded word is divided into fields.  A NUL in it separates, too. -/
inductive Division where
  | whole
  /-- At the separators of the shell. -/
  | split
  /-- At NULs alone, which lie between arguments. -/
  | separate
  deriving DecidableEq, Repr

structure Span where
  division : Division
  glyphs : List Glyph
  deriving DecidableEq, Repr

namespace Glyph

def bytes (glyphs : List Glyph) : Bytes :=
  glyphs.filterMap fun glyph =>
    match glyph with
    | byte value _ => some value
    | mark => none

/-- The bytes that are kept from having a meaning in a pattern when they are quoted. -/
def isGuarded (value : UInt8) : Bool :=
  (ascii "!*?[=~:/-]\\").contains value || (0x81 ≤ value && value ≤ 0x88)

def ofValue (isQuoted : Bool) (text : Bytes) : List Glyph :=
  text.map fun value => byte value (isQuoted && isGuarded value)

/-- The pattern that a field stands for: a backslash comes before quoted bytes. -/
def pattern (glyphs : List Glyph) : Bytes :=
  (go glyphs true false []).reverse
where
  /-- The pattern in reverse, behind what comes before.  After a backslash that is not quoted
  the next byte needs no other. -/
  go : List Glyph → Bool → Bool → Bytes → Bytes
    | [], _, _, done => done
    | .mark :: rest, _, inQuotes, done => go rest true (!inQuotes) done
    | .byte value false :: rest, _, inQuotes, done =>
        go rest (value != Byte.backslash) inQuotes (value :: done)
    | .byte value true :: rest, needsBackslash, inQuotes, done =>
        let backslashes :=
          if needsBackslash then [Byte.backslash]
          else if inQuotes then [Byte.backslash, Byte.backslash]
          else []
        go rest true inQuotes (value :: backslashes ++ done)

end Glyph

def Span.bytes (spans : List Span) : Bytes :=
  spans.flatMap fun span => Glyph.bytes span.glyphs

structure Splitter where
  /-- The finished fields, the latest first. -/
  finished : List (List Glyph) := []
  /-- The present field, the latest glyph first. -/
  present : List Glyph := []
  /-- Whether the last field was ended by whitespace. -/
  afterSpace : Bool := false
  /-- How many more fields may be begun, where that is limited. -/
  limit : Option Nat := none
  /-- The length to which the last field is cut in the end. -/
  cut : Option Nat := none
  /-- Whether the last stretch was divided at NULs alone. -/
  isSeparate : Bool := false

namespace Splitter

/-- Whitespace that separates fields without standing for an empty one. -/
def isSpace (value : UInt8) : Bool :=
  value == 0 || value == Byte.space || value == 9 || value == Byte.newline

def push (splitter : Splitter) (glyph : Glyph) : Splitter :=
  { splitter with present := glyph :: splitter.present, afterSpace := false }

def step (separators : Bytes) (afterSeparate : Bool) (splitter : Splitter) (glyph : Glyph) :
    Splitter :=
  match glyph with
  | .mark => splitter.push .mark
  | .byte value _ =>
      let separates := value == 0 || separators.contains value
      let isSpace := separates && isSpace value
      if splitter.limit == some 0 then
        let pushed := { splitter with present := glyph :: splitter.present }
        if isSpace then { pushed with cut := splitter.cut <|> some splitter.present.length }
        else
          { pushed with
            cut := if separates && splitter.afterSpace then splitter.cut else none
            afterSpace := false }
      else if splitter.afterSpace then
        if isSpace then splitter
        else if separates then { splitter with afterSpace := false }
        else splitter.push glyph
      else if separates then
        let afterSpace := !afterSeparate && !splitter.isSeparate && isSpace
        if splitter.present.isEmpty && afterSpace then splitter
        else if splitter.limit == some 1 then
          { splitter with
            present := glyph :: splitter.present
            limit := some 0
            cut := some splitter.present.length
            afterSpace }
        else
          { splitter with
            finished := splitter.present.reverse :: splitter.finished
            present := []
            limit := splitter.limit.map (· - 1)
            afterSpace }
      else splitter.push glyph

def stretch (separators : Bytes) (splitter : Splitter) (span : Span) : Splitter :=
  match span.division with
  | .whole => { splitter with present := span.glyphs.reverse ++ splitter.present }
  | .split =>
      span.glyphs.foldl (step separators splitter.isSeparate)
        { splitter with afterSpace := false, isSeparate := false }
  | .separate =>
      span.glyphs.foldl (step [] splitter.isSeparate)
        { splitter with afterSpace := false, isSeparate := true }

def fields (splitter : Splitter) : List (List Glyph) :=
  let present := splitter.present.reverse
  if splitter.isSeparate then (present :: splitter.finished).reverse
  else
    let present :=
      match splitter.cut with
      | none => present
      | some length => present.take length
    (if present.isEmpty then splitter.finished else present :: splitter.finished).reverse

end Splitter

def divide (separators : Bytes) (limit : Option Nat) (spans : List Span) : List (List Glyph) :=
  (spans.foldl (Splitter.stretch separators) { limit }).fields

/-- Split a pattern at its slashes, with or without a backslash in front. -/
def patternComponents : Bytes → List Bytes
  | [] => [[]]
  | Byte.backslash :: Byte.slash :: rest => [] :: patternComponents rest
  | Byte.backslash :: byte :: rest =>
      (patternComponents rest).modifyHead ([Byte.backslash, byte] ++ ·)
  | byte :: rest =>
      if byte = Byte.slash then [] :: patternComponents rest
      else (patternComponents rest).modifyHead (byte :: ·)

def closesBracket (inside : Bytes) : Bool :=
  let inside := if inside.head? == some 33 then inside.tail else inside
  go inside
where
  /-- Whether the bracket is closed behind the first byte. -/
  go : Bytes → Bool
    | [] => false
    | Byte.backslash :: _ :: 93 :: _ => true
    | Byte.backslash :: _ :: rest => go rest
    | _ :: 93 :: _ => true
    | _ :: rest => go rest

def isOpenPattern : Bytes → Bool
  | [] => false
  | Byte.backslash :: _ :: rest => isOpenPattern rest
  | byte :: rest =>
      byte == 42 || byte == Byte.question || (byte == 91 && closesBracket rest) ||
        isOpenPattern rest

def unquoted : Bytes → Bytes
  | [] => []
  | Byte.backslash :: byte :: rest => byte :: unquoted rest
  | byte :: rest => byte :: unquoted rest

def listedNames (files : Files) (here : Location) (path : Bytes) : List Bytes :=
  match find files here (if path.isEmpty then ascii "." else path) with
  | .ok found =>
      if found.node.isDirectory then ascii "." :: ascii ".." :: found.node.names else []
  | .error _ => []

def matchPaths (files : Files) (here : Location) : Bytes → List Bytes → List Bytes
  | path, [] => if (findEntry files here path).isOk then [path] else []
  | path, component :: rest =>
      let separator := if rest.isEmpty then [] else [Byte.slash]
      if isOpenPattern component then
        let first := if component.head? == some Byte.backslash then component.tail else component
        let seesHidden := first.head? == some (Byte.ofChar '.')
        let names := (listedNames files here path).filter fun name =>
          (seesHidden || name.head? != some (Byte.ofChar '.')) && matchPattern component name
        names.flatMap fun name =>
          if rest.isEmpty then [path ++ name]
          else matchPaths files here (path ++ name ++ separator) rest
      else matchPaths files here (path ++ unquoted component ++ separator) rest

/-- The texts that a field stands for: the names of the files it matches, or itself. -/
def fieldTexts (files : Files) (here : Location) (field : List Glyph) : List Bytes :=
  let text := Glyph.bytes field
  if !text.any fun byte => byte == 42 || byte == Byte.question || byte == 91 then [text]
  else
    let components := patternComponents (Glyph.pattern field)
    if !components.any isOpenPattern then [text]
    else
      match matchPaths files here [] components with
      | [] => [text]
      | paths => paths.mergeSort fun left right => !(right < left)

end TradeLocal.Shell
