import Mathlib.Data.List.Infix
import TradeLocal.Proofs.Expansion.Meaning

/-!
# Escaped text

A text in which every byte with a meaning has a backslash in front expands to itself.  In a
default word this holds as long as the text has no dollar in front of an opening brace: the
search for the closing brace takes an escaped dollar for any other, and looks for one brace
more.
-/

namespace TradeLocal.Expansion

/-- The text with a backslash in front of each dollar, backtick, double quote and backslash. -/
def escape (text : Bytes) : Bytes :=
  text.flatMap fun byte =>
    if byte ∈ Token.escapable then [Byte.backslash, byte] else [byte]

variable {byte : UInt8} {name text rest : Bytes}

@[simp]
theorem escape_nil : escape [] = [] := rfl

theorem escape_cons_of_mem (listed : byte ∈ Token.escapable) (rest : Bytes) :
    escape (byte :: rest) = Byte.backslash :: byte :: escape rest := by
  simp [escape, listed]

theorem escape_cons_of_notMem (unlisted : byte ∉ Token.escapable) (rest : Bytes) :
    escape (byte :: rest) = byte :: escape rest := by
  simp [escape, unlisted]

theorem escape_append (first second : Bytes) :
    escape (first ++ second) = escape first ++ escape second := by
  simp [escape]

theorem mem_of_mem_escape (member : byte ∈ escape text) : byte = Byte.backslash ∨ byte ∈ text := by
  obtain ⟨source, sourceMember, piece⟩ := List.mem_flatMap.mp member
  split at piece
  · obtain rfl | rfl : byte = Byte.backslash ∨ byte = source := by simpa using piece
    · exact .inl rfl
    · exact .inr sourceMember
  · obtain rfl : byte = source := by simpa using piece
    exact .inr sourceMember

theorem notMem_escape (differs : byte ≠ Byte.backslash) (absent : byte ∉ text) :
    byte ∉ escape text := by
  intro member
  rcases mem_of_mem_escape member with backslash | inText
  · exact differs backslash
  · exact absent inText

theorem getLast?_escape (text : Bytes) : (escape text).getLast? = text.getLast? := by
  cases text using List.reverseRecOn with
  | nil => rfl
  | append_singleton front byte =>
      rw [escape_append]
      by_cases listed : byte ∈ Token.escapable
      · rw [escape_cons_of_mem listed]
        simp
      · rw [escape_cons_of_notMem listed]
        simp

theorem expand_escaped_byte (values : Variables) (listed : byte ∈ Token.escapable) (rest : Bytes) :
    expand values (Byte.backslash :: byte :: rest) = (expand values rest).map (byte :: ·) := by
  have next : Piece.next Byte.backslash (byte :: rest) = some (.escaped byte, rest) := by
    rw [Piece.next_backslash_cons, if_pos ((Token.isEscapable_iff byte).mpr listed)]
  exact expand_of_next next rfl

theorem expand_escape_append (values : Variables) (text rest : Bytes) :
    expand values (escape text ++ rest) = (expand values rest).map (text ++ ·) := by
  induction text with
  | nil => simp
  | cons byte text ih =>
      have first : expand values (escape (byte :: text) ++ rest) =
          (expand values (escape text ++ rest)).map (byte :: ·) := by
        by_cases listed : byte ∈ Token.escapable
        · rw [escape_cons_of_mem listed]
          exact expand_escaped_byte values listed _
        · rw [escape_cons_of_notMem listed]
          apply expand_byte
          all_goals
            rintro rfl
            exact listed (by decide)
      rw [first, ih, Option.map_map]
      rfl

theorem expand_escape (values : Variables) (text : Bytes) :
    expand values (escape text) = some text := by
  have alone := expand_escape_append values text []
  rwa [List.append_nil, expand_nil, Option.map_some, List.append_nil] at alone

/-- How many further braces a text opens: how often a dollar stands in front of an opening
brace. -/
def openings : Bytes → Nat
  | [] => 0
  | byte :: rest =>
      (if byte = Byte.dollar ∧ rest.head? = some Byte.openBrace then 1 else 0) + openings rest

theorem openings_eq_zero_iff : openings text = 0 ↔ ¬[Byte.dollar, Byte.openBrace] <:+: text := by
  induction text with
  | nil => simp [openings]
  | cons byte rest ih =>
      have opens : [Byte.dollar, Byte.openBrace] <+: byte :: rest ↔
          byte = Byte.dollar ∧ rest.head? = some Byte.openBrace := by
        cases rest <;> simp [List.cons_prefix_cons, eq_comm]
      rw [openings, List.infix_cons_iff, opens, Nat.add_eq_zero_iff, ih]
      split
      · next pair => simp [pair]
      · next noPair => simp [noPair]

theorem head?_escape_iff (text : Bytes) :
    (escape text).head? = some Byte.openBrace ↔ text.head? = some Byte.openBrace := by
  cases text with
  | nil => simp
  | cons byte text =>
      by_cases listed : byte ∈ Token.escapable
      · have notBackslash : Byte.backslash ≠ Byte.openBrace := by decide
        have differ : byte ≠ Byte.openBrace := by
          rintro rfl
          revert listed
          decide
        simp [escape_cons_of_mem listed, differ, notBackslash]
      · simp [escape_cons_of_notMem listed]

theorem openings_escape (text : Bytes) : openings (escape text) = openings text := by
  induction text with
  | nil => rfl
  | cons byte text ih =>
      by_cases listed : byte ∈ Token.escapable
      · have notDollar : Byte.backslash ≠ Byte.dollar := by decide
        simp only [escape_cons_of_mem listed, openings, notDollar, false_and, if_false,
          Nat.zero_add, head?_escape_iff, ih]
      · simp only [escape_cons_of_notMem listed, openings, head?_escape_iff, ih]

theorem closingBrace?_cons (notBrace : byte ≠ Byte.closeBrace) (depth : Nat) (rest : Bytes) :
    closingBrace? depth (byte :: rest) =
      (closingBrace?
        (depth + if byte = Byte.dollar ∧ rest.head? = some Byte.openBrace then 1 else 0) rest).map
          (· + 1) := by
  by_cases isDollar : byte = Byte.dollar
  · subst isDollar
    cases rest with
    | nil => rfl
    | cons next rest =>
        by_cases opens : next = Byte.openBrace
        · subst opens
          have notDollar : Byte.openBrace ≠ Byte.dollar := by decide
          have notClose : Byte.openBrace ≠ Byte.closeBrace := by decide
          have inner := closingBrace?_byte notDollar notClose (depth + 1) rest
          simp [inner, Function.comp_def]
        · have lone : (next :: rest).head? ≠ some Byte.openBrace := by simpa using opens
          simp [closingBrace?_dollar lone, opens]
  · simp [closingBrace?_byte isDollar notBrace, isDollar]

/-- The search passes over a text that closes nothing.  Every brace that the text opens has to
be closed behind it. -/
theorem closingBrace?_append_of_unclosed (unclosed : Byte.closeBrace ∉ text)
    (apart : rest.head? ≠ some Byte.openBrace) (depth : Nat) :
    closingBrace? depth (text ++ rest) =
      (closingBrace? (depth + openings text) rest).map (· + text.length) := by
  -- A dollar at the end of the text opens nothing, since what follows begins with no brace.
  induction text generalizing depth with
  | nil => simp [openings]
  | cons byte text ih =>
      simp only [List.mem_cons, not_or] at unclosed
      rw [List.cons_append, closingBrace?_cons (Ne.symm unclosed.1), ih unclosed.2,
        Option.map_map, openings, Nat.add_assoc]
      simp only [head?_append_eq_some_iff apart]
      rfl

theorem closingBrace?_eq_none (unclosed : Byte.closeBrace ∉ text) (depth : Nat) :
    closingBrace? depth text = none := by
  cases found : closingBrace? depth text with
  | none => rfl
  | some position =>
      rw [← take_append_closingBrace? found] at unclosed
      simp at unclosed

/-- `${name:-word}`. -/
def withDefault (name word : Bytes) : Bytes :=
  Byte.dollar :: Byte.openBrace :: name ++ Byte.colon :: Byte.hyphen :: word ++ [Byte.closeBrace]

/-- The value of a variable, or a text in place of an empty one or of none. -/
def valueOr (values : Variables) (name text : Bytes) : Bytes :=
  match values name with
  | none | some [] => text
  | some value => value

theorem closingBrace?_default (valid : Bytes.isVariableName name = true)
    (unclosed : Byte.closeBrace ∉ text) (apart : rest.head? ≠ some Byte.openBrace) (depth : Nat) :
    closingBrace? depth (name ++ Byte.colon :: Byte.hyphen :: escape text ++ rest) =
      (closingBrace? (depth + openings text) rest).map
        (· + (name ++ Byte.colon :: Byte.hyphen :: escape text).length) := by
  have front : Passes (name ++ [Byte.colon, Byte.hyphen]) (escape text ++ rest) := by
    apply (passes_name (Bytes.all_isName_of_isVariableName valid) _).append
    apply (passes_byte (by decide) (by decide) _).cons
    exact passes_byte (by decide) (by decide) _
  have word := closingBrace?_append_of_unclosed (notMem_escape (by decide) unclosed) apart depth
  have split : name ++ Byte.colon :: Byte.hyphen :: escape text =
      name ++ [Byte.colon, Byte.hyphen] ++ escape text := by simp
  have length (position : Nat) : position + (escape text).length +
      (name ++ [Byte.colon, Byte.hyphen]).length =
        position + (name ++ [Byte.colon, Byte.hyphen] ++ escape text).length := by
    simp only [List.length_append]
    omega
  rw [split, List.append_assoc, front depth, word, openings_escape, Option.map_map]
  congr 1
  funext position
  exact length position

theorem value_escapedDefault (values : Variables) (valid : Bytes.isVariableName name = true)
    (text : Bytes) :
    (Piece.braced (name ++ Byte.colon :: Byte.hyphen :: escape text)).value values =
      some (valueOr values name text) := by
  have read : readBody (name ++ Byte.colon :: Byte.hyphen :: escape text) =
      some (name, .ifEmpty (escape text)) := by
    rw [Token.readBody_append valid rfl, readDefault_colon_hyphen, Option.map_some]
  rcases value : values name with _ | _ | ⟨first, others⟩ <;>
    simp [Piece.value, read, Default.applies, Default.word?, value, valueOr, expand_escape]

theorem withDefault_append (name word after : Bytes) :
    withDefault name word ++ after =
      Byte.dollar :: Byte.openBrace ::
        (name ++ Byte.colon :: Byte.hyphen :: word ++ Byte.closeBrace :: after) := by
  simp [withDefault]

theorem expand_withDefault_of_closed (values : Variables)
    (valid : Bytes.isVariableName name = true) (unclosed : Byte.closeBrace ∉ text)
    (closed : ¬[Byte.dollar, Byte.openBrace] <:+: text) (after : Bytes) :
    expand values (withDefault name (escape text) ++ after) =
      (expand values after).map (valueOr values name text ++ ·) := by
  have passes : Passes (name ++ Byte.colon :: Byte.hyphen :: escape text)
      (Byte.closeBrace :: after) := by
    intro depth
    rw [closingBrace?_default valid unclosed (by simp; decide), openings_eq_zero_iff.mpr closed,
      Nat.add_zero]
  rw [withDefault_append]
  exact expand_of_next (next_braced passes) (value_escapedDefault values valid text)

theorem expand_withDefault_of_open (values : Variables)
    (valid : Bytes.isVariableName name = true) (unclosed : Byte.closeBrace ∉ text)
    (opened : [Byte.dollar, Byte.openBrace] <:+: text) {after : Bytes}
    (unclosedAfter : Byte.closeBrace ∉ after) :
    expand values (withDefault name (escape text) ++ after) = none := by
  obtain ⟨further, more⟩ : ∃ further, openings text = further + 1 := by
    apply Nat.exists_eq_succ_of_ne_zero
    intro noOpening
    exact openings_eq_zero_iff.mp noOpening opened
  have lost : closingBrace? 0
      (name ++ Byte.colon :: Byte.hyphen :: escape text ++ Byte.closeBrace :: after) = none := by
    rw [closingBrace?_default valid unclosed (by simp; decide), more, Nat.zero_add,
      closingBrace?_close_succ, closingBrace?_eq_none unclosedAfter]
    rfl
  rw [withDefault_append, expand_cons, Piece.next_dollar_brace, lost]
  rfl

/-- An escaped text means the text in a default word, and what follows the closing brace is
expanded on its own, exactly when the text has no dollar in front of an opening brace.
Otherwise a brace is missed, and the whole has no value unless another one follows. -/
theorem expand_withDefault_escape (values : Variables)
    (valid : Bytes.isVariableName name = true) (unclosed : Byte.closeBrace ∉ text) :
    ((∀ after, expand values (withDefault name (escape text) ++ after) =
        (expand values after).map (valueOr values name text ++ ·)) ↔
      ¬[Byte.dollar, Byte.openBrace] <:+: text) ∧
    ([Byte.dollar, Byte.openBrace] <:+: text → ∀ after, Byte.closeBrace ∉ after →
      expand values (withDefault name (escape text) ++ after) = none) := by
  have missed : [Byte.dollar, Byte.openBrace] <:+: text → ∀ after, Byte.closeBrace ∉ after →
      expand values (withDefault name (escape text) ++ after) = none :=
    fun opened after => expand_withDefault_of_open values valid unclosed opened
  refine ⟨⟨?_, expand_withDefault_of_closed values valid unclosed⟩, missed⟩
  intro expands opened
  have alone := expands []
  rw [missed opened [] (by simp), expand_nil] at alone
  cases alone

/-- A backslash, a dollar, a quote and a brace in a default that is used, with text behind. -/
theorem expand_withDefault_escape_quote :
    let text := ascii "\\$\"\x7b$"
    Bytes.isVariableName (ascii "A") = true ∧ Byte.closeBrace ∉ text ∧
      (¬[Byte.dollar, Byte.openBrace] <:+: text) ∧
      expand (fun _ => none) (ascii "$\x7bA:-\\\\\\$\\\"\x7b\\$\x7d$B-") =
        some (text ++ ascii "-") := by
  intro text
  have valid : Bytes.isVariableName (ascii "A") = true := by decide
  have unclosed : Byte.closeBrace ∉ text := by decide
  have closed : ¬[Byte.dollar, Byte.openBrace] <:+: text := by decide
  refine ⟨valid, unclosed, closed, ?_⟩
  have expands := (expand_withDefault_escape (fun _ => none) valid unclosed).1.mpr closed
    (ascii "$B-")
  exact expands.trans (by decide +kernel)

/-- Not every text without a closing brace is protected in a default word. -/
theorem not_expand_withDefault_escape :
    ¬∀ (values : Variables) (name text : Bytes), Bytes.isVariableName name = true →
      Byte.closeBrace ∉ text →
      expand values (withDefault name (escape text)) = some (valueOr values name text) := by
  intro claimed
  have expands := claimed (fun _ => none) (ascii "A") (ascii "$\x7b") (by decide) (by decide)
  revert expands
  decide +kernel

end TradeLocal.Expansion
