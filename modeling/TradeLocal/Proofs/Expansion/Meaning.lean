import TradeLocal.Environment
import TradeLocal.Expansion.Expand
import TradeLocal.Proofs.Bytes
import TradeLocal.Proofs.Expansion.Token

/-!
# Expansion evaluates tokens

Three scanners read an expandable text: one splits off pieces, one finds the closing brace
of a body, one reads the body.  On the text of a well-formed list of tokens they agree with
the list about where each token ends, and so expansion gives its meaning.
-/

namespace TradeLocal

namespace Expansion

/-- The search for a closing brace passes over `text` in front of `rest`: what was open
before is open behind it. -/
def Passes (text rest : Bytes) : Prop :=
  ∀ depth, closingBrace? depth (text ++ rest) =
    (closingBrace? depth rest).map (· + text.length)

theorem Passes.nil (rest : Bytes) : Passes [] rest := by
  intro depth
  simp

theorem Passes.append {first second rest : Bytes} (firstPasses : Passes first (second ++ rest))
    (secondPasses : Passes second rest) : Passes (first ++ second) rest := by
  intro depth
  rw [List.append_assoc, firstPasses, secondPasses, Option.map_map, List.length_append]
  congr 1
  funext position
  simp only [Function.comp_apply]
  omega

theorem passes_byte {byte : UInt8} (notDollar : byte ≠ Byte.dollar)
    (notBrace : byte ≠ Byte.closeBrace) (rest : Bytes) : Passes [byte] rest :=
  fun depth => closingBrace?_byte notDollar notBrace depth rest

theorem passes_dollar {rest : Bytes} (lone : rest.head? ≠ some Byte.openBrace) :
    Passes [Byte.dollar] rest :=
  fun depth => closingBrace?_dollar lone depth

theorem Passes.cons {byte : UInt8} {text rest : Bytes} (bytePasses : Passes [byte] (text ++ rest))
    (textPasses : Passes text rest) : Passes (byte :: text) rest :=
  bytePasses.append textPasses

theorem ne_of_isName {byte : UInt8} (name : Byte.isName byte = true) :
    byte ≠ Byte.dollar ∧ byte ≠ Byte.openBrace ∧ byte ≠ Byte.closeBrace := by
  refine ⟨?_, ?_, ?_⟩ <;> rintro rfl <;> revert name <;> decide

theorem passes_name {name : Bytes} (names : ∀ byte ∈ name, Byte.isName byte = true)
    (rest : Bytes) : Passes name rest := by
  induction name with
  | nil => exact Passes.nil rest
  | cons byte name ih =>
      obtain ⟨notDollar, _, notBrace⟩ := ne_of_isName (names byte (by simp))
      exact (passes_byte notDollar notBrace _).cons
        (ih fun other member => names other (by simp [member]))

theorem closingBrace?_body {body rest : Bytes} (passes : Passes body (Byte.closeBrace :: rest)) :
    closingBrace? 0 (body ++ Byte.closeBrace :: rest) = some body.length := by
  rw [passes]
  simp

theorem Passes.braced {body rest : Bytes} (passes : Passes body (Byte.closeBrace :: rest)) :
    Passes (Piece.braced body).text rest := by
  intro depth
  have inner := passes (depth + 1)
  rw [closingBrace?_close_succ, Option.map_map] at inner
  simp only [Piece.text, List.cons_append, List.append_assoc, List.nil_append,
    closingBrace?_open, inner, Option.map_map]
  congr 1
  funext position
  simp only [Function.comp_apply, List.length_cons, List.length_append, List.length_nil]
  omega

theorem head?_append_eq_some_iff {text rest : Bytes} {byte : UInt8}
    (apart : rest.head? ≠ some byte) :
    (text ++ rest).head? = some byte ↔ text.head? = some byte := by
  cases text with
  | nil => exact iff_of_false apart nofun
  | cons next text => exact Iff.rfl

theorem head?_append_ne {first second : Bytes} {byte : UInt8} (firstHead : first.head? ≠ some byte)
    (secondHead : second.head? ≠ some byte) : (first ++ second).head? ≠ some byte :=
  fun opened => firstHead ((head?_append_eq_some_iff secondHead).mp opened)

theorem next_byte {byte : UInt8} (notBacktick : byte ≠ Byte.backtick)
    (notBackslash : byte ≠ Byte.backslash) (notDollar : byte ≠ Byte.dollar) (after : Bytes) :
    Piece.next byte after = some (.byte byte, after) := by
  simp [Piece.next, notBacktick, notBackslash, notDollar]

theorem expand_of_next {values : Variables} {first : UInt8} {rest after value : Bytes}
    {piece : Piece} (found : Piece.next first rest = some (piece, after))
    (evaluates : piece.value values = some value) :
    expand values (first :: rest) = (expand values after).map (value ++ ·) := by
  rw [expand_cons, found]
  simp only [Option.bind_some, evaluates]

theorem expand_byte (values : Variables) {byte : UInt8} (notBacktick : byte ≠ Byte.backtick)
    (notBackslash : byte ≠ Byte.backslash) (notDollar : byte ≠ Byte.dollar) (after : Bytes) :
    expand values (byte :: after) = (expand values after).map (byte :: ·) :=
  expand_of_next (next_byte notBacktick notBackslash notDollar after) rfl

theorem next_braced {body after : Bytes} (passes : Passes body (Byte.closeBrace :: after)) :
    Piece.next Byte.dollar (Byte.openBrace :: (body ++ Byte.closeBrace :: after)) =
      some (.braced body, after) := by
  have rest : (body ++ Byte.closeBrace :: after).drop (body.length + 1) = after := by
    rw [← List.drop_drop, List.drop_left]
    rfl
  simp [closingBrace?_body passes, rest]

theorem next_named {name after : Bytes} (valid : Bytes.isVariableName name = true)
    (ended : (after.head?.all fun next => !Byte.isName next) = true) :
    Piece.next Byte.dollar (name ++ after) = some (.named name, after) := by
  obtain ⟨taken, dropped⟩ := Bytes.takeWhile_isName_append valid ended
  cases name with
  | nil => simp [Bytes.isVariableName] at valid
  | cons first name =>
      simp only [Bytes.isVariableName, Bool.and_eq_true] at valid
      have notBrace := (ne_of_isName (Byte.isName_of_isNameStart valid.1)).2.1
      rw [List.cons_append] at taken dropped ⊢
      rw [Piece.next_dollar_cons notBrace, if_pos valid.1, taken, dropped]

namespace Token

/-- The piece that a token is read as, if it is supported. -/
def piece? : Token → Option Piece
  | literal byte => some (.byte byte)
  | escape byte => some (.escaped byte)
  | dollar => some (.byte Byte.dollar)
  | backslash => some (.byte Byte.backslash)
  | named name => some (.named name)
  | braced name => some (.braced name)
  | ifUnset name word => some (.braced (name ++ Byte.hyphen :: listText word))
  | ifEmpty name word => some (.braced (name ++ Byte.colon :: Byte.hyphen :: listText word))
  | command | special _ => none

theorem lone_of_fits {inside : Bool} {next : UInt8} {after : Bytes}
    (tokenFits : dollar.fits inside (next :: after) = true) :
    next ≠ Byte.openBrace ∧ Byte.isNameStart next = false ∧ isUnsupported next = false := by
  simp only [fits, List.head?_cons, Option.all_some, Bool.not_eq_true', Bool.or_eq_false_iff,
    beq_eq_false_iff_ne, ne_eq] at tokenFits
  obtain ⟨⟨⟨notName, notBrace⟩, notDollar⟩, notSpecial⟩ := tokenFits
  refine ⟨notBrace, ?_, ?_⟩
  · cases start : Byte.isNameStart next with
    | false => rfl
    | true => simp [Byte.isName_of_isNameStart start] at notName
  · cases unsupported : isUnsupported next with
    | false => rfl
    | true =>
        rcases (isUnsupported_iff next).mp unsupported with digit | equal | listed
        · simp [Byte.isName_of_isDigit digit] at notName
        · exact absurd equal notDollar
        · simp [listed] at notSpecial

theorem special_of_fits {inside : Bool} {byte : UInt8} {after : Bytes}
    (tokenFits : (special byte).fits inside after = true) :
    byte ≠ Byte.openBrace ∧ Byte.isNameStart byte = false ∧ isUnsupported byte = true := by
  simp only [fits, Bool.or_eq_true, List.contains_iff_mem] at tokenFits
  have unsupported : isUnsupported byte = true :=
    (isUnsupported_iff byte).mpr (tokenFits.imp_right .inr)
  rcases tokenFits with digit | listed
  · exact ⟨(ne_of_isName (Byte.isName_of_isDigit digit)).2.1,
      Byte.isNameStart_eq_false_of_isDigit digit, unsupported⟩
  · have specialBytes : specials = [40, 64, 42, 35, 63, 45, 33] := rfl
    have notBrace : Byte.openBrace ∉ specials := by decide
    refine ⟨fun equal => notBrace (equal ▸ listed), ?_, unsupported⟩
    simp only [specialBytes, List.mem_cons, List.not_mem_nil, or_false] at listed
    rcases listed with rfl | rfl | rfl | rfl | rfl | rfl | rfl <;> rfl

theorem wellFormed_word {token : Token} {inside : Bool} {after : Bytes} {word : List Token}
    (tokenFits : token.fits inside after = true) (present : token.word? = some word) :
    wellFormed true word = true := by
  cases token <;> simp only [word?, Option.some.injEq, reduceCtorEq] at present <;>
    subst present <;> simp only [fits, Bool.and_eq_true] at tokenFits <;> exact tokenFits.2

theorem text_of_piece? {token : Token} {piece : Piece} (read : token.piece? = some piece) :
    token.text = piece.text := by
  cases token <;> simp only [piece?, Option.some.injEq, reduceCtorEq] at read <;> subst read <;>
    simp [text, Piece.text]

theorem passes_body {token : Token} {inside : Bool} {after body : Bytes}
    (tokenFits : token.fits inside after = true) (read : token.piece? = some (.braced body))
    (rest : Bytes) (words : ∀ word, token.word? = some word → Passes (listText word) rest) :
    Passes body rest := by
  cases token with
  | braced name =>
      obtain rfl : name = body := by simpa [piece?] using read
      exact passes_name (Bytes.all_isName_of_isVariableName tokenFits) rest
  | ifUnset name word =>
      obtain rfl : name ++ Byte.hyphen :: listText word = body := by simpa [piece?] using read
      simp only [fits, Bool.and_eq_true] at tokenFits
      apply (passes_name (Bytes.all_isName_of_isVariableName tokenFits.1) _).append
      exact (passes_byte (by decide) (by decide) _).cons (words word rfl)
  | ifEmpty name word =>
      obtain rfl : name ++ Byte.colon :: Byte.hyphen :: listText word = body := by
        simpa [piece?] using read
      simp only [fits, Bool.and_eq_true] at tokenFits
      apply (passes_name (Bytes.all_isName_of_isVariableName tokenFits.1) _).append
      apply (passes_byte (by decide) (by decide) _).cons
      exact (passes_byte (by decide) (by decide) _).cons (words word rfl)
  | _ => simp [piece?] at read

theorem passes_text {token : Token} {after : Bytes} (tokenFits : token.fits true after = true)
    {rest : Bytes} (closed : rest.head? ≠ some Byte.openBrace)
    (words : ∀ word, token.word? = some word →
      Passes (listText word) (Byte.closeBrace :: (after ++ rest))) :
    Passes token.text (after ++ rest) := by
  cases token with
  | literal byte =>
      simp only [fits, Bool.and_eq_true, bne_iff_ne, Bool.true_and, Bool.not_eq_true',
        beq_eq_false_iff_ne] at tokenFits
      exact passes_byte tokenFits.1.1.1 tokenFits.2 _
  | escape byte =>
      simp only [fits, Bool.and_eq_true, Bool.true_and, Bool.not_eq_true',
        Bool.and_eq_false_iff, beq_eq_false_iff_ne] at tokenFits
      obtain ⟨escapes, unopened⟩ := tokenFits
      apply (passes_byte (by decide) (by decide) _).cons
      by_cases isDollar : byte = Byte.dollar
      · subst isDollar
        have lone : after.head? ≠ some Byte.openBrace := by simpa using unopened
        exact passes_dollar (head?_append_ne lone closed)
      · apply passes_byte isDollar
        rintro rfl
        revert escapes
        decide
  | dollar =>
      have lone : after.head? ≠ some Byte.openBrace := by
        intro opened
        simp [fits, opened] at tokenFits
      exact passes_dollar (head?_append_ne lone closed)
  | backslash => exact passes_byte (by decide) (by decide) _
  | named name =>
      simp only [fits, Bool.and_eq_true] at tokenFits
      have names := Bytes.all_isName_of_isVariableName tokenFits.1
      apply (passes_dollar _).cons (passes_name names _)
      cases name with
      | nil => simp [Bytes.isVariableName] at tokenFits
      | cons first name => simpa using (ne_of_isName (names first (by simp))).2.1
  | command => exact passes_byte (by decide) (by decide) _
  | special byte =>
      have differs : byte ≠ Byte.dollar ∧ byte ≠ Byte.openBrace ∧ byte ≠ Byte.closeBrace := by
        refine ⟨?_, ?_, ?_⟩ <;> rintro rfl <;> revert tokenFits <;> simp only [fits] <;> decide
      apply (passes_dollar _).cons (passes_byte differs.1 differs.2.2 _)
      simpa using differs.2.1
  | _ =>
      rw [text_of_piece? rfl]
      exact (passes_body tokenFits rfl _ words).braced

theorem passes_listText {tokens : List Token} (formed : wellFormed true tokens = true)
    {rest : Bytes} (closed : rest.head? ≠ some Byte.openBrace) :
    Passes (listText tokens) rest := by
  induction tokens using listInduction generalizing rest with
  | nil => exact Passes.nil rest
  | cons token others words ih =>
      simp only [wellFormed, Bool.and_eq_true] at formed
      obtain ⟨tokenFits, othersFormed⟩ := formed
      apply (passes_text tokenFits closed _).append (ih othersFormed closed)
      intro word present
      exact words word present (wellFormed_word tokenFits present) (by simp; decide)

theorem next_of_braced {token : Token} {inside : Bool} {after body : Bytes}
    (tokenFits : token.fits inside after = true) (read : token.piece? = some (.braced body))
    {first : UInt8} {tail : Bytes} (split : token.text = first :: tail) :
    Piece.next first (tail ++ after) = some (.braced body, after) := by
  rw [text_of_piece? read] at split
  obtain ⟨rfl, rfl⟩ :
      Byte.dollar = first ∧ Byte.openBrace :: (body ++ [Byte.closeBrace]) = tail := by
    simpa [Piece.text] using split
  have passes : Passes body (Byte.closeBrace :: after) :=
    passes_body tokenFits read _ fun word present =>
      passes_listText (wellFormed_word tokenFits present) (by simp; decide)
  simpa using next_braced passes

/-- The first piece of the text of a token is the token, also when other text follows. -/
theorem next_text {token : Token} {inside : Bool} {after : Bytes}
    (tokenFits : token.fits inside after = true) {first : UInt8} {tail : Bytes}
    (split : token.text = first :: tail) :
    Piece.next first (tail ++ after) = token.piece?.map (·, after) := by
  cases token with
  | literal byte =>
      obtain ⟨rfl, rfl⟩ : byte = first ∧ [] = tail := by simpa [text] using split
      simp only [fits, Bool.and_eq_true, bne_iff_ne] at tokenFits
      obtain ⟨⟨⟨notDollar, notBacktick⟩, notBackslash⟩, _⟩ := tokenFits
      exact next_byte notBacktick notBackslash notDollar after
  | escape byte =>
      obtain ⟨rfl, rfl⟩ : Byte.backslash = first ∧ [byte] = tail := by simpa [text] using split
      simp only [fits, Bool.and_eq_true, List.contains_iff_mem] at tokenFits
      simp [piece?, isEscapable_iff, tokenFits]
  | dollar =>
      obtain ⟨rfl, rfl⟩ : Byte.dollar = first ∧ [] = tail := by simpa [text] using split
      cases after with
      | nil => simp [piece?]
      | cons next after =>
          have followed := lone_of_fits tokenFits
          rw [List.nil_append, Piece.next_dollar_cons followed.1]
          simp [piece?, followed]
  | backslash =>
      obtain ⟨rfl, rfl⟩ : Byte.backslash = first ∧ [] = tail := by simpa [text] using split
      cases after with
      | nil => simp [piece?]
      | cons next after => simpa [fits, piece?, isEscapable_iff] using tokenFits
  | named name =>
      obtain ⟨rfl, rfl⟩ : Byte.dollar = first ∧ name = tail := by simpa [text] using split
      simp only [fits, Bool.and_eq_true] at tokenFits
      exact next_named tokenFits.1 tokenFits.2
  | command =>
      obtain ⟨rfl, rfl⟩ : Byte.backtick = first ∧ [] = tail := by simpa [text] using split
      simp [piece?]
  | special byte =>
      obtain ⟨rfl, rfl⟩ : Byte.dollar = first ∧ [byte] = tail := by simpa [text] using split
      have asks := special_of_fits tokenFits
      rw [List.singleton_append, Piece.next_dollar_cons asks.1]
      simp [piece?, asks]
  | _ => exact next_of_braced tokenFits rfl split

theorem readBody_append {name rest : Bytes} (valid : Bytes.isVariableName name = true)
    (ended : (rest.head?.all fun next => !Byte.isName next) = true) :
    readBody (name ++ rest) = (readDefault rest).map (name, ·) := by
  obtain ⟨taken, dropped⟩ := Bytes.takeWhile_isName_append valid ended
  rw [readBody, taken, dropped, if_pos valid]

theorem readBody_name {name : Bytes} (valid : Bytes.isVariableName name = true) :
    readBody name = some (name, .empty) := by
  have whole := readBody_append valid (show (([] : Bytes).head?.all _) = true from rfl)
  rwa [List.append_nil, readDefault_nil, Option.map_some] at whole

theorem value_piece? (values : Variables) {token : Token} {inside : Bool} {after : Bytes}
    (tokenFits : token.fits inside after = true)
    (words : ∀ word, token.word? = some word →
      expand values (listText word) = listMeaning values word) :
    token.piece?.bind (Piece.value values) = token.meaning values := by
  cases token with
  | braced name =>
      simp [piece?, Piece.value, readBody_name tokenFits, Default.applies, meaning]
  | ifUnset name word =>
      simp only [fits, Bool.and_eq_true] at tokenFits
      have read : readBody (name ++ Byte.hyphen :: listText word) =
          some (name, .ifUnset (listText word)) := by
        rw [readBody_append tokenFits.1 rfl, readDefault_hyphen, Option.map_some]
      cases value : values name <;>
        simp [piece?, Piece.value, read, Default.applies, Default.word?, value, meaning,
          words word rfl]
  | ifEmpty name word =>
      simp only [fits, Bool.and_eq_true] at tokenFits
      have read : readBody (name ++ Byte.colon :: Byte.hyphen :: listText word) =
          some (name, .ifEmpty (listText word)) := by
        rw [readBody_append tokenFits.1 rfl, readDefault_colon_hyphen, Option.map_some]
      rcases value : values name with _ | _ | ⟨first, others⟩ <;>
        simp [piece?, Piece.value, read, Default.applies, Default.word?, value, meaning,
          words word rfl]
  | _ => rfl

theorem text_ne_nil (token : Token) : token.text ≠ [] := by
  cases token <;> simp [text]

end Token

open Token in
/-- The text of a well-formed list of tokens expands to the meaning of the list, whatever
values variables have. -/
theorem expand_listText (values : Variables) {inside : Bool} {tokens : List Token}
    (formed : wellFormed inside tokens = true) :
    expand values (listText tokens) = listMeaning values tokens := by
  induction tokens using listInduction generalizing inside with
  | nil => simp [listText, listMeaning]
  | cons token rest words ih =>
      simp only [wellFormed, Bool.and_eq_true] at formed
      obtain ⟨tokenFits, restFormed⟩ := formed
      have value := value_piece? values tokenFits fun word present =>
        words word present (wellFormed_word tokenFits present)
      obtain ⟨first, tail, split⟩ := List.exists_cons_of_ne_nil token.text_ne_nil
      calc expand values (listText (token :: rest))
          = (Piece.next first (tail ++ listText rest)).bind fun read =>
              (read.1.value values).bind fun value =>
                (expand values read.2).map (value ++ ·) := by
            rw [listText, split, List.cons_append, expand_cons]
        _ = (token.piece?.bind (Piece.value values)).bind fun value =>
              (expand values (listText rest)).map (value ++ ·) := by
            rw [next_text tokenFits split]
            cases token.piece? <;> rfl
        _ = listMeaning values (token :: rest) := by
            rw [value, ih restFormed, listMeaning]

/-- A default within a default, and braces that are literal outside of it. -/
def nestedDefault : List Token :=
  [.ifEmpty (ascii "A")
      [.literal 120, .escape 36, .ifUnset (ascii "B") [.command], .backslash, .literal 121],
    .literal 125, .escape 36, .literal 123, .dollar]

theorem expand_nestedDefault :
    Token.wellFormed false nestedDefault = true ∧
      expand (Variables.ofPairs [(ascii "A", []), (ascii "B", ascii "b")])
          (Token.listText nestedDefault) =
        some (ascii "x$b\\y\x7d$\x7b$") := by
  have formed : Token.wellFormed false nestedDefault = true := by decide
  exact ⟨formed, (expand_listText _ formed).trans (by decide)⟩

end Expansion

end TradeLocal
