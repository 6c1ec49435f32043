import TradeLocal.Expansion.Brace

/-!
# Pieces of an expandable text

A text is read piece by piece: a byte that stands for itself, an escaped byte, a variable,
or a braced body.  Text that asks for any other kind of expansion, such as a command
substitution or a special parameter, has no pieces.
-/

namespace TradeLocal

/-- Values of variables by name; `none` for one that is unset. -/
abbrev Variables := Bytes → Option Bytes

namespace Expansion

def isEscapable (byte : UInt8) : Bool :=
  byte == Byte.dollar || byte == Byte.backtick || byte == Byte.doubleQuote ||
    byte == Byte.backslash

/-- The bytes that make a dollar in front an expansion of a kind not supported: digits,
and `( @ * # ? - $ !`. -/
def isUnsupported (byte : UInt8) : Bool :=
  Byte.isDigit byte || (ascii "(@*#?-$!").contains byte

inductive Piece where
  /-- A byte that stands for itself. -/
  | byte (value : UInt8)
  /-- A backslash and the byte it makes literal. -/
  | escaped (value : UInt8)
  /-- A dollar and a name. -/
  | named (name : Bytes)
  /-- A dollar and what stands between the braces that follow. -/
  | braced (body : Bytes)
  deriving DecidableEq, Repr

namespace Piece

def text : Piece → Bytes
  | byte value => [value]
  | escaped value => [Byte.backslash, value]
  | named name => Byte.dollar :: name
  | braced body => Byte.dollar :: Byte.openBrace :: body ++ [Byte.closeBrace]

/-- The first piece of the nonempty text `first :: rest`, with the text that follows it. -/
def next (first : UInt8) (rest : Bytes) : Option (Piece × Bytes) :=
  if first = Byte.backtick then none
  else if first = Byte.backslash then
    match rest with
    | [] => some (byte first, [])
    | second :: after =>
        if isEscapable second then some (escaped second, after)
        else some (byte first, rest)
  else if first = Byte.dollar then
    match rest with
    | [] => some (byte first, [])
    | second :: after =>
        if second = Byte.openBrace then
          match closingBrace? 0 after with
          | none => none
          | some position => some (braced (after.take position), after.drop (position + 1))
        else if Byte.isNameStart second then
          some (named (rest.takeWhile Byte.isName), rest.dropWhile Byte.isName)
        else if isUnsupported second then none
        else some (byte first, rest)
  else some (byte first, rest)

@[simp]
theorem next_backtick (rest : Bytes) : next Byte.backtick rest = none := rfl

@[simp]
theorem next_backslash_nil : next Byte.backslash [] = some (byte Byte.backslash, []) := rfl

@[simp]
theorem next_backslash_cons (second : UInt8) (after : Bytes) :
    next Byte.backslash (second :: after) =
      if isEscapable second then some (escaped second, after)
      else some (byte Byte.backslash, second :: after) := rfl

@[simp]
theorem next_dollar_nil : next Byte.dollar [] = some (byte Byte.dollar, []) := rfl

@[simp]
theorem next_dollar_brace (after : Bytes) :
    next Byte.dollar (Byte.openBrace :: after) =
      (closingBrace? 0 after).map fun position =>
        (braced (after.take position), after.drop (position + 1)) := by
  show (match closingBrace? 0 after with
    | none => none
    | some position => some (braced (after.take position), after.drop (position + 1))) = _
  cases closingBrace? 0 after <;> rfl

theorem next_dollar_cons {second : UInt8} (notBrace : second ≠ Byte.openBrace) (after : Bytes) :
    next Byte.dollar (second :: after) =
      if Byte.isNameStart second then
        some (named ((second :: after).takeWhile Byte.isName),
          (second :: after).dropWhile Byte.isName)
      else if isUnsupported second then none
      else some (byte Byte.dollar, second :: after) :=
  if_neg notBrace

theorem next_cases {first : UInt8} {rest after : Bytes} {piece : Piece}
    (found : next first rest = some (piece, after)) :
    piece = byte first ∧ rest = after ∨
    (∃ second, piece = escaped second ∧ first = Byte.backslash ∧ rest = second :: after) ∨
    (piece = named (rest.takeWhile Byte.isName) ∧ first = Byte.dollar ∧
      rest.dropWhile Byte.isName = after ∧ (rest.head?.any Byte.isNameStart) = true) ∨
    ∃ body, piece = braced body ∧ first = Byte.dollar ∧
      rest = Byte.openBrace :: (body ++ Byte.closeBrace :: after) := by
  by_cases isBackslash : first = Byte.backslash
  · subst first
    cases rest with
    | nil =>
        obtain ⟨rfl, rfl⟩ : byte Byte.backslash = piece ∧ [] = after := by simpa using found
        exact .inl ⟨rfl, rfl⟩
    | cons second tail =>
        rw [next_backslash_cons] at found
        split at found
        · obtain ⟨rfl, rfl⟩ : escaped second = piece ∧ tail = after := by simpa using found
          exact .inr (.inl ⟨second, rfl, rfl, rfl⟩)
        · obtain ⟨rfl, rfl⟩ : byte Byte.backslash = piece ∧ second :: tail = after := by
            simpa using found
          exact .inl ⟨rfl, rfl⟩
  by_cases isDollar : first = Byte.dollar
  · subst first
    cases rest with
    | nil =>
        obtain ⟨rfl, rfl⟩ : byte Byte.dollar = piece ∧ [] = after := by simpa using found
        exact .inl ⟨rfl, rfl⟩
    | cons second tail =>
        by_cases brace : second = Byte.openBrace
        · subst second
          rw [next_dollar_brace, Option.map_eq_some_iff] at found
          obtain ⟨position, closed, split⟩ := found
          obtain ⟨rfl, rfl⟩ := Prod.mk.inj split
          exact .inr (.inr (.inr ⟨_, rfl, rfl, by rw [take_append_closingBrace? closed]⟩))
        · rw [next_dollar_cons brace] at found
          split at found
          · next start =>
              obtain ⟨rfl, rfl⟩ := Prod.mk.inj (Option.some.inj found)
              exact .inr (.inr (.inl ⟨rfl, rfl, rfl, by simpa using start⟩))
          · split at found
            · cases found
            · obtain ⟨rfl, rfl⟩ := Prod.mk.inj (Option.some.inj found)
              exact .inl ⟨rfl, rfl⟩
  · simp only [next.eq_def, if_neg isBackslash, if_neg isDollar] at found
    split at found
    · cases found
    · obtain ⟨rfl, rfl⟩ := Prod.mk.inj (Option.some.inj found)
      exact .inl ⟨rfl, rfl⟩

theorem text_append_of_next {first : UInt8} {rest after : Bytes} {piece : Piece}
    (found : next first rest = some (piece, after)) : piece.text ++ after = first :: rest := by
  rcases next_cases found with ⟨rfl, rfl⟩ | ⟨second, rfl, rfl, rfl⟩ | ⟨rfl, rfl, rfl, _⟩ |
    ⟨body, rfl, rfl, rfl⟩
  · rfl
  · rfl
  · rw [text, List.cons_append, List.takeWhile_append_dropWhile]
  · simp [text]

theorem length_next_le {first : UInt8} {rest after : Bytes} {piece : Piece}
    (found : next first rest = some (piece, after)) : after.length ≤ rest.length := by
  rcases next_cases found with ⟨rfl, rfl⟩ | ⟨second, rfl, rfl, rfl⟩ | ⟨rfl, rfl, rfl, _⟩ |
    ⟨body, rfl, rfl, rfl⟩
  · exact Nat.le_refl _
  · simp
  · exact (List.dropWhile_sublist _).length_le
  · simp only [List.length_cons, List.length_append]
    omega

theorem length_body_lt {first : UInt8} {rest after body : Bytes}
    (found : next first rest = some (braced body, after)) :
    body.length + 2 ≤ rest.length := by
  have whole := congrArg List.length (text_append_of_next found)
  simp only [text, List.length_append, List.length_cons, List.length_nil] at whole
  omega

end Piece

/-- What a braced body says to do when its variable has no value. -/
inductive Default where
  /-- Nothing is said: the value is empty. -/
  | empty
  /-- `-word`: use the word if the variable is unset. -/
  | ifUnset (word : Bytes)
  /-- `:-word`: use the word if the variable is unset or empty. -/
  | ifEmpty (word : Bytes)
  deriving DecidableEq, Repr

def readDefault : Bytes → Option Default
  | [] => some .empty
  | first :: rest =>
      if first = Byte.hyphen then some (.ifUnset rest)
      else if first = Byte.colon then
        match rest with
        | [] => none
        | second :: word => if second = Byte.hyphen then some (.ifEmpty word) else none
      else none

@[simp]
theorem readDefault_nil : readDefault [] = some .empty := rfl

@[simp]
theorem readDefault_hyphen (word : Bytes) :
    readDefault (Byte.hyphen :: word) = some (.ifUnset word) := rfl

@[simp]
theorem readDefault_colon_hyphen (word : Bytes) :
    readDefault (Byte.colon :: Byte.hyphen :: word) = some (.ifEmpty word) := rfl

/-- Read a braced body: a valid name, then at most one default. -/
def readBody (body : Bytes) : Option (Bytes × Default) :=
  if Bytes.isVariableName (body.takeWhile Byte.isName) then
    (readDefault (body.dropWhile Byte.isName)).map (body.takeWhile Byte.isName, ·)
  else none

def Default.word? : Default → Option Bytes
  | .empty => none
  | .ifUnset word | .ifEmpty word => some word

def Default.applies : Default → Option Bytes → Bool
  | .empty, _ => false
  | .ifUnset _, value => value.isNone
  | .ifEmpty _, value => (value.getD []).isEmpty

theorem append_word_of_readDefault {text word : Bytes} {default : Default}
    (read : readDefault text = some default) (used : default.word? = some word) :
    ∃ operator, operator ≠ [] ∧ operator ++ word = text := by
  unfold readDefault at read
  repeat' split at read
  all_goals simp only [Option.some.injEq, reduceCtorEq] at read
  all_goals subst read
  all_goals simp only [Default.word?, Option.some.injEq, reduceCtorEq] at used
  all_goals subst used
  · exact ⟨[_], by simp, rfl⟩
  · exact ⟨[_, _], by simp, rfl⟩

theorem readBody_eq_some_iff {body name : Bytes} {default : Default} :
    readBody body = some (name, default) ↔
      Bytes.isVariableName name = true ∧ body.takeWhile Byte.isName = name ∧
        readDefault (body.dropWhile Byte.isName) = some default := by
  rw [readBody]
  constructor
  · intro read
    split at read
    · next valid =>
        simp only [Option.map_eq_some_iff, Prod.mk.injEq] at read
        obtain ⟨_, readRest, rfl, rfl⟩ := read
        exact ⟨valid, rfl, readRest⟩
    · cases read
  · rintro ⟨valid, rfl, readRest⟩
    rw [if_pos valid, readRest, Option.map_some]

theorem append_word_of_readBody {body name word : Bytes} {default : Default}
    (read : readBody body = some (name, default)) (used : default.word? = some word) :
    ∃ front, front ≠ [] ∧ front ++ word = body := by
  obtain ⟨_, rfl, readRest⟩ := readBody_eq_some_iff.mp read
  obtain ⟨operator, nonempty, split⟩ := append_word_of_readDefault readRest used
  refine ⟨body.takeWhile Byte.isName ++ operator, by simp [nonempty], ?_⟩
  rw [List.append_assoc, split, List.takeWhile_append_dropWhile]

theorem length_word_lt {body name word : Bytes} {default : Default}
    (read : readBody body = some (name, default)) (used : default.word? = some word) :
    word.length < body.length := by
  obtain ⟨front, nonempty, rfl⟩ := append_word_of_readBody read used
  have := List.length_pos_iff.mpr nonempty
  rw [List.length_append]
  omega

end Expansion

end TradeLocal
