import TradeLocal.Expansion.Piece

/-!
# Tokens of expandable texts

The language of expandable texts, said without a scanner: a list of tokens, in which the
default of a variable is again such a list.  A list has a text, a condition under which its
tokens can be told apart in that text, and a meaning.
-/

namespace TradeLocal.Expansion

/-- A token of an expandable text. -/
inductive Token where
  /-- A byte that stands for itself wherever it is. -/
  | literal (byte : UInt8)
  /-- A backslash and the byte it makes literal. -/
  | escape (byte : UInt8)
  /-- A dollar that stands for itself because of what follows. -/
  | dollar
  /-- A backslash that stands for itself because of what follows. -/
  | backslash
  /-- `$NAME`. -/
  | named (name : Bytes)
  /-- `${NAME}`. -/
  | braced (name : Bytes)
  /-- `${NAME-word}`. -/
  | ifUnset (name : Bytes) (word : List Token)
  /-- `${NAME:-word}`. -/
  | ifEmpty (name : Bytes) (word : List Token)
  /-- A backtick, which would begin a command substitution. -/
  | command
  /-- A dollar and a byte that together ask for a special parameter or an arithmetic or
  command substitution. -/
  | special (byte : UInt8)

namespace Token

def escapable : Bytes := ascii "$`\"\\"

/-- The bytes other than digits that make a dollar in front a special token. -/
def specials : Bytes := ascii "(@*#?-!"

theorem isEscapable_iff (byte : UInt8) : isEscapable byte = true ↔ byte ∈ escapable := by
  have bytes : escapable = [Byte.dollar, Byte.backtick, Byte.doubleQuote, Byte.backslash] := rfl
  simp [bytes, isEscapable, or_assoc]

theorem isUnsupported_iff (byte : UInt8) :
    isUnsupported byte = true ↔
      Byte.isDigit byte = true ∨ byte = Byte.dollar ∨ byte ∈ specials := by
  have unsupportedBytes : ascii "(@*#?-$!" = [40, 64, 42, 35, 63, 45, 36, 33] := rfl
  have specialBytes : specials = [40, 64, 42, 35, 63, 45, 33] := rfl
  simp only [isUnsupported, unsupportedBytes, specialBytes, Bool.or_eq_true,
    List.contains_iff_mem, List.mem_cons, List.not_mem_nil]
  grind

mutual

def text : Token → Bytes
  | literal byte => [byte]
  | escape byte => [Byte.backslash, byte]
  | dollar => [Byte.dollar]
  | backslash => [Byte.backslash]
  | named name => Byte.dollar :: name
  | braced name => Byte.dollar :: Byte.openBrace :: name ++ [Byte.closeBrace]
  | ifUnset name word =>
      Byte.dollar :: Byte.openBrace :: name ++ Byte.hyphen :: listText word ++ [Byte.closeBrace]
  | ifEmpty name word =>
      Byte.dollar :: Byte.openBrace :: name ++ Byte.colon :: Byte.hyphen :: listText word ++
        [Byte.closeBrace]
  | command => [Byte.backtick]
  | special byte => [Byte.dollar, byte]

def listText : List Token → Bytes
  | [] => []
  | token :: rest => token.text ++ listText rest

end

mutual

/-- The value of a token, or `none` if an unsupported token is evaluated in it.  A default
word is evaluated only when it is used. -/
def meaning (values : Variables) : Token → Option Bytes
  | literal byte | escape byte => some [byte]
  | dollar => some [Byte.dollar]
  | backslash => some [Byte.backslash]
  | named name | braced name => some ((values name).getD [])
  | ifUnset name word =>
      match values name with
      | none => listMeaning values word
      | some value => some value
  | ifEmpty name word =>
      match values name with
      | none | some [] => listMeaning values word
      | some value => some value
  | command | special _ => none

def listMeaning (values : Variables) : List Token → Option Bytes
  | [] => some []
  | token :: rest =>
      (token.meaning values).bind fun value => (listMeaning values rest).map (value ++ ·)

end

mutual

/-- Whether the token keeps its meaning in front of `after`, the rest of its list.  The
tokens of a default word are `inside` braces. -/
def fits (inside : Bool) (after : Bytes) : Token → Bool
  | literal byte =>
      byte != Byte.dollar && byte != Byte.backtick && byte != Byte.backslash &&
        !(inside && byte == Byte.closeBrace)
  | escape byte =>
      escapable.contains byte &&
        !(inside && byte == Byte.dollar && after.head? == some Byte.openBrace)
  | dollar =>
      after.head?.all fun next =>
        !(Byte.isName next || next == Byte.openBrace || next == Byte.dollar ||
          specials.contains next)
  | backslash => after.head?.all fun next => !escapable.contains next
  | named name => Bytes.isVariableName name && after.head?.all fun next => !Byte.isName next
  | braced name => Bytes.isVariableName name
  | ifUnset name word | ifEmpty name word => Bytes.isVariableName name && wellFormed true word
  | command => true
  | special byte => Byte.isDigit byte || specials.contains byte

def wellFormed (inside : Bool) : List Token → Bool
  | [] => true
  | token :: rest => token.fits inside (listText rest) && wellFormed inside rest

end

def word? : Token → Option (List Token)
  | ifUnset _ word | ifEmpty _ word => some word
  | _ => none

/-- Induction over a list of tokens and over the default words in it. -/
@[elab_as_elim]
theorem listInduction {motive : List Token → Prop} (nil : motive [])
    (cons : ∀ token rest, (∀ word, token.word? = some word → motive word) → motive rest →
      motive (token :: rest)) (tokens : List Token) : motive tokens := by
  refine @Token.rec_1 (fun token => ∀ word, token.word? = some word → motive word) motive
    ?_ ?_ ?_ ?_ ?_ ?_ ?_ ?_ ?_ ?_ nil cons tokens
  case refine_7 => rintro name word wordHolds _ ⟨⟩; exact wordHolds
  case refine_8 => rintro name word wordHolds _ ⟨⟩; exact wordHolds
  all_goals intros; contradiction

end Token

end TradeLocal.Expansion
