import TradeLocal.Expansion.Piece

/-!
# Expansion

The value of an expandable text under an assignment of values to variables: the values of
its pieces, one after the other.  A default word is looked at only when it is used, so an
unsupported expansion in an unused one does no harm.
-/

namespace TradeLocal.Expansion

/-- The value of a text, or `none` if it needs an expansion that is not supported.  An
unset variable counts as empty. -/
def expand (values : Variables) : Bytes → Option Bytes
  | [] => some []
  | first :: rest =>
      match next : Piece.next first rest with
      | none => none
      | some (piece, after) =>
          let value :=
            match _shape : piece with
            | .byte value => some [value]
            | .escaped value => some [value]
            | .named name => some ((values name).getD [])
            | .braced body =>
                match _read : readBody body with
                | none => none
                | some (name, default) =>
                    if default.applies (values name) then
                      match _used : default.word? with
                      | none => some []
                      | some word => expand values word
                    else some ((values name).getD [])
          value.bind fun value => (expand values after).map (value ++ ·)
termination_by text => text.length
decreasing_by
  · subst _shape
    have := Piece.length_body_lt next
    have := length_word_lt _read _used
    simp only [List.length_cons]
    omega
  · have := Piece.length_next_le next
    simp only [List.length_cons]
    omega

def Piece.value (values : Variables) : Piece → Option Bytes
  | .byte value => some [value]
  | .escaped value => some [value]
  | .named name => some ((values name).getD [])
  | .braced body =>
      (readBody body).bind fun (name, default) =>
        if default.applies (values name) then
          match default.word? with
          | none => some []
          | some word => expand values word
        else some ((values name).getD [])

@[simp]
theorem expand_nil (values : Variables) : expand values [] = some [] := by
  rw [expand]

theorem expand_cons (values : Variables) (first : UInt8) (rest : Bytes) :
    expand values (first :: rest) =
      (Piece.next first rest).bind fun (piece, after) =>
        (piece.value values).bind fun value =>
          (expand values after).map (value ++ ·) := by
  rw [expand]
  split
  · next absent => simp [absent]
  · next piece after present =>
      simp only [present, Option.bind_some]
      congr 1
      cases piece with
      | braced body =>
          simp only [Piece.value]
          split
          · next unread => simp [unread]
          · next name default read =>
              simp only [read, Option.bind_some]
              split
              · split <;> simp_all
              · rfl
      | byte value => rfl
      | escaped value => rfl
      | named name => rfl

/-- Induction over the texts that are looked at: what follows the first piece, and a default
word in it. -/
@[elab_as_elim]
theorem textInduction {motive : Bytes → Prop} (nil : motive [])
    (cons : ∀ first rest,
      (∀ piece after, Piece.next first rest = some (piece, after) → motive after) →
      (∀ body after name default word, Piece.next first rest = some (.braced body, after) →
        readBody body = some (name, default) → default.word? = some word → motive word) →
      motive (first :: rest)) (text : Bytes) : motive text := by
  induction length : text.length using Nat.strongRecOn generalizing text with
  | _ bound ih =>
      subst length
      cases text with
      | nil => exact nil
      | cons first rest =>
          apply cons
          · intro piece after found
            have := Piece.length_next_le found
            exact ih after.length (by simp only [List.length_cons]; omega) after rfl
          · intro body after name default word found read used
            have := Piece.length_body_lt found
            have := length_word_lt read used
            exact ih word.length (by simp only [List.length_cons]; omega) word rfl

end TradeLocal.Expansion
