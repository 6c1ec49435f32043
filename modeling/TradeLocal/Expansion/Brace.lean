import TradeLocal.Bytes

/-!
# Matching braces

`${` opens and `}` closes.  The brace that closes an opened one is found on the raw text:
no other byte has a meaning here, a backslash in particular.
-/

namespace TradeLocal.Expansion

/-- The distance from the start of the text to the brace that closes the innermost open
`${`, when `depth` further ones have been opened inside it. -/
def closingBrace? : Nat → Bytes → Option Nat
  | _, [] => none
  | depth, byte :: rest =>
      if byte = Byte.dollar then
        match rest with
        | [] => none
        | next :: after =>
            -- A dollar alone passes over itself only, so in two of them the second may open.
            if next = Byte.openBrace then (closingBrace? (depth + 1) after).map (· + 2)
            else (closingBrace? depth (next :: after)).map (· + 1)
      else if byte = Byte.closeBrace then
        match depth with
        | 0 => some 0
        | outer + 1 => (closingBrace? outer rest).map (· + 1)
      else (closingBrace? depth rest).map (· + 1)
termination_by structural _ text => text

def closingBraceFrom? (text : Bytes) (start : Nat) : Option Nat :=
  (closingBrace? 0 (text.drop start)).map (start + ·)

@[simp]
theorem closingBrace?_nil (depth : Nat) : closingBrace? depth [] = none := rfl

@[simp]
theorem closingBrace?_open (depth : Nat) (rest : Bytes) :
    closingBrace? depth (Byte.dollar :: Byte.openBrace :: rest) =
      (closingBrace? (depth + 1) rest).map (· + 2) := by
  rw [closingBrace?.eq_def]
  simp

theorem closingBrace?_dollar {rest : Bytes} (lone : rest.head? ≠ some Byte.openBrace)
    (depth : Nat) :
    closingBrace? depth (Byte.dollar :: rest) = (closingBrace? depth rest).map (· + 1) := by
  rw [closingBrace?.eq_def]
  cases rest with
  | nil => simp
  | cons next rest =>
      have notBrace : next ≠ Byte.openBrace := by simpa using lone
      simp [notBrace]

@[simp]
theorem closingBrace?_close_zero (rest : Bytes) :
    closingBrace? 0 (Byte.closeBrace :: rest) = some 0 := by
  have notDollar : Byte.closeBrace ≠ Byte.dollar := by decide
  rw [closingBrace?.eq_def]
  simp [notDollar]

@[simp]
theorem closingBrace?_close_succ (depth : Nat) (rest : Bytes) :
    closingBrace? (depth + 1) (Byte.closeBrace :: rest) =
      (closingBrace? depth rest).map (· + 1) := by
  have notDollar : Byte.closeBrace ≠ Byte.dollar := by decide
  rw [closingBrace?.eq_def]
  simp [notDollar]

theorem closingBrace?_byte {byte : UInt8} (notDollar : byte ≠ Byte.dollar)
    (notBrace : byte ≠ Byte.closeBrace) (depth : Nat) (rest : Bytes) :
    closingBrace? depth (byte :: rest) = (closingBrace? depth rest).map (· + 1) := by
  rw [closingBrace?.eq_def]
  simp [notDollar, notBrace]

theorem take_append_closingBrace? {depth : Nat} {text : Bytes} {position : Nat}
    (found : closingBrace? depth text = some position) :
    text.take position ++ Byte.closeBrace :: text.drop (position + 1) = text := by
  fun_induction closingBrace? depth text generalizing position
  case case1 | case2 => simp at found
  case case5 rest notDollar =>
    obtain rfl : 0 = position := by simpa using found
    rfl
  case case3 ih | case4 ih | case6 ih | case7 ih =>
    obtain ⟨inner, innerFound, rfl⟩ := Option.map_eq_some_iff.mp found
    simpa using ih innerFound

end TradeLocal.Expansion
