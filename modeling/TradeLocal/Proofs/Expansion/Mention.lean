import Mathlib.Data.Set.Function
import TradeLocal.Expansion.Expand
import TradeLocal.Proofs.Bytes

/-!
# The names a text mentions

A text mentions the names that stand in it behind a dollar, with or without a brace between.
Its expansion depends on the values of these names alone, wherever the text was cut from:
cutting a text at bytes that are none of a name leaves every name whole.
-/

namespace TradeLocal

namespace Bytes

/-- The text goes on with no byte of a name. -/
def EndsName (rest : Bytes) : Prop :=
  (rest.head?.all fun next => !Byte.isName next) = true

/-- The names that stand in the text directly behind a dollar, or behind a dollar and an
opening brace, each as long as it goes on. -/
def mentioned (text : Bytes) : Set Bytes :=
  {name | name ≠ [] ∧ (∀ byte ∈ name, Byte.isName byte = true) ∧
    ∃ before after, EndsName after ∧
      (text = before ++ Byte.dollar :: (name ++ after) ∨
        text = before ++ Byte.dollar :: Byte.openBrace :: (name ++ after))}

/-- `part` is a piece of `whole` that ends where no name goes on. -/
def Slice (part whole : Bytes) : Prop :=
  ∃ before after, whole = before ++ part ++ after ∧ EndsName after

theorem EndsName.nil : EndsName [] := rfl

theorem EndsName.cons {byte : UInt8} (other : Byte.isName byte = false) (rest : Bytes) :
    EndsName (byte :: rest) := by
  simp [EndsName, other]

theorem EndsName.append {first second : Bytes} (firstEnds : EndsName first)
    (secondEnds : EndsName second) : EndsName (first ++ second) := by
  cases first with
  | nil => exact secondEnds
  | cons byte rest => simpa [EndsName] using firstEnds

namespace Slice

theorem trans {part middle whole : Bytes} (inner : Slice part middle)
    (outer : Slice middle whole) : Slice part whole := by
  obtain ⟨innerBefore, innerAfter, rfl, innerEnds⟩ := inner
  obtain ⟨before, after, rfl, ends⟩ := outer
  exact ⟨before ++ innerBefore, innerAfter ++ after, by simp, innerEnds.append ends⟩

theorem of_append {part whole before : Bytes} (split : before ++ part = whole) :
    Slice part whole :=
  ⟨before, [], by simp [split], EndsName.nil⟩

theorem takeWhile {keep : UInt8 → Bool} (text : Bytes)
    (names : ∀ byte, Byte.isName byte = true → keep byte = true) :
    Slice (text.takeWhile keep) text := by
  refine ⟨[], text.dropWhile keep, by simp, ?_⟩
  have dropped := head?_dropWhile keep text
  cases rest : text.dropWhile keep with
  | nil => exact EndsName.nil
  | cons byte after =>
      apply EndsName.cons
      by_contra name
      simp [rest, names byte (by simpa using name)] at dropped

theorem dropWhile (keep : UInt8 → Bool) (text : Bytes) : Slice (text.dropWhile keep) text :=
  of_append List.takeWhile_append_dropWhile

theorem mentioned_subset {part whole : Bytes} (slice : Slice part whole) :
    mentioned part ⊆ mentioned whole := by
  obtain ⟨front, back, rfl, backEnds⟩ := slice
  rintro name ⟨nonempty, names, before, after, ends, place⟩
  refine ⟨nonempty, names, front ++ before, after ++ back, ends.append backEnds, ?_⟩
  rcases place with rfl | rfl
  · exact .inl (by simp)
  · exact .inr (by simp)

end Slice

theorem mem_mentioned_named {name after : Bytes} (nonempty : name ≠ [])
    (names : ∀ byte ∈ name, Byte.isName byte = true) (ends : EndsName after) :
    name ∈ mentioned (Byte.dollar :: (name ++ after)) :=
  ⟨nonempty, names, [], after, ends, .inl rfl⟩

theorem mem_mentioned_braced {name after : Bytes} (nonempty : name ≠ [])
    (names : ∀ byte ∈ name, Byte.isName byte = true) (ends : EndsName after) :
    name ∈ mentioned (Byte.dollar :: Byte.openBrace :: (name ++ after)) :=
  ⟨nonempty, names, [], after, ends, .inr rfl⟩

theorem infix_of_mem_mentioned {name text : Bytes} (member : name ∈ mentioned text) :
    name <:+: text := by
  obtain ⟨_, _, before, after, _, rfl | rfl⟩ := member
  · exact ⟨before ++ [Byte.dollar], after, by simp⟩
  · exact ⟨before ++ [Byte.dollar, Byte.openBrace], after, by simp⟩

end Bytes

namespace Expansion

open Bytes

theorem slice_of_next {first : UInt8} {rest after : Bytes} {piece : Piece}
    (found : Piece.next first rest = some (piece, after)) : Slice after (first :: rest) :=
  Slice.of_append (Piece.text_append_of_next found)

/-- The body of a braced piece is a slice: a closing brace follows it. -/
theorem slice_body_of_next {first : UInt8} {rest after body : Bytes}
    (found : Piece.next first rest = some (.braced body, after)) : Slice body (first :: rest) := by
  refine ⟨[Byte.dollar, Byte.openBrace], Byte.closeBrace :: after, ?_, .cons (by decide) after⟩
  simpa [Piece.text] using (Piece.text_append_of_next found).symm

theorem slice_word_of_readBody {body name word : Bytes} {default : Default}
    (read : readBody body = some (name, default)) (used : default.word? = some word) :
    Slice word body := by
  obtain ⟨front, _, split⟩ := append_word_of_readBody read used
  exact Slice.of_append split

theorem mem_mentioned_of_next_named {first : UInt8} {rest after name : Bytes}
    (found : Piece.next first rest = some (.named name, after)) :
    name ∈ mentioned (first :: rest) := by
  rcases Piece.next_cases found with ⟨⟨⟩, _⟩ | ⟨_, ⟨⟩, _⟩ | ⟨⟨⟩, rfl, dropped, start⟩ | ⟨_, ⟨⟩, _⟩
  obtain ⟨split, names, ends⟩ := split_iff.mp ⟨rfl, dropped⟩
  have nonempty : rest.takeWhile Byte.isName ≠ [] := by
    cases rest with
    | nil => simp at start
    | cons byte rest =>
        have name : Byte.isName byte = true := Byte.isName_of_isNameStart (by simpa using start)
        simp [name]
  have member := mem_mentioned_named nonempty names ends
  rwa [← split] at member

theorem mem_mentioned_of_next_braced {first : UInt8} {rest after body name : Bytes}
    {default : Default} (found : Piece.next first rest = some (.braced body, after))
    (read : readBody body = some (name, default)) : name ∈ mentioned (first :: rest) := by
  obtain ⟨valid, taken, _⟩ := readBody_eq_some_iff.mp read
  obtain ⟨split, names, ends⟩ := split_iff.mp ⟨taken, rfl⟩
  have nonempty : name ≠ [] := by
    rintro rfl
    cases valid
  have ended : EndsName (body.dropWhile Byte.isName ++ Byte.closeBrace :: after) :=
    EndsName.append ends (.cons (by decide) after)
  have whole : Byte.dollar :: Byte.openBrace ::
      (name ++ (body.dropWhile Byte.isName ++ Byte.closeBrace :: after)) = first :: rest := by
    rw [← List.append_assoc, ← split]
    simpa [Piece.text] using Piece.text_append_of_next found
  rw [← whole]
  exact mem_mentioned_braced nonempty names ended

theorem value_braced_congr {first second : Variables} {body : Bytes}
    (names : ∀ name default, readBody body = some (name, default) → first name = second name)
    (words : ∀ name default word, readBody body = some (name, default) →
      default.word? = some word → expand first word = expand second word) :
    (Piece.braced body).value first = (Piece.braced body).value second := by
  rw [Piece.value, Piece.value]
  cases read : readBody body with
  | none => rfl
  | some parts =>
      obtain ⟨name, default⟩ := parts
      simp only [Option.bind_some, names name default read]
      cases used : default.word? with
      | none => rfl
      | some word => simp only [words name default word read used]

/-- Two assignments of values that agree on what a text mentions expand it alike. -/
theorem expand_congr {first second : Variables} {text : Bytes}
    (agree : Set.EqOn first second (mentioned text)) : expand first text = expand second text := by
  induction text using textInduction with
  | nil => rw [expand_nil, expand_nil]
  | cons byte rest tail words =>
      rw [expand_cons, expand_cons]
      cases found : Piece.next byte rest with
      | none => rfl
      | some read =>
          obtain ⟨piece, after⟩ := read
          have value : piece.value first = piece.value second := by
            cases piece with
            | byte value => rfl
            | escaped value => rfl
            | named name => rw [Piece.value, Piece.value, agree (mem_mentioned_of_next_named found)]
            | braced body =>
                apply value_braced_congr
                · intro name default parts
                  exact agree (mem_mentioned_of_next_braced found parts)
                · intro name default word parts used
                  have slice := (slice_word_of_readBody parts used).trans (slice_body_of_next found)
                  exact words body after name default word found parts used
                    (agree.mono slice.mentioned_subset)
          have rest := tail piece after found (agree.mono (slice_of_next found).mentioned_subset)
          simp only [Option.bind_some, value, rest]

end Expansion

end TradeLocal
