import Mathlib.Order.Bounds.Basic
import Mathlib.Tactic.MkIffOfInductiveProp
import TradeLocal.Environment
import TradeLocal.Expansion.Expand
import TradeLocal.Proofs.Expansion.Escape

/-!
# Balanced bodies

The brace that ends a body is the first one that closes more than the body has opened.  So a body
is balanced: it opens as often as it closes, and nowhere closes more than it has opened.
-/

namespace TradeLocal.Expansion

/-- No front of the text closes more than it opens, beyond `depth` that are open around it. -/
def Within (depth : Nat) (text : Bytes) : Prop :=
  ∀ front, front <+: text → front.count Byte.closeBrace ≤ depth + openings front

@[mk_iff]
structure Balanced (depth : Nat) (text : Bytes) : Prop where
  within : Within depth text
  closed : text.count Byte.closeBrace = depth + openings text

/-- At `place` stands a closing brace, and up to it there are more closing braces from `start` on
than pairs that open. -/
def Closes (text : Bytes) (start place : Nat) : Prop :=
  start ≤ place ∧ text[place]? = some Byte.closeBrace ∧
    openings (text.extract start place) <
      (text.extract start (place + 1)).count Byte.closeBrace

/-- The expansion of `text` comes to `rest`, with the value `done` of what is in front of it. -/
inductive Reaches (values : Variables) (text : Bytes) : Bytes → Bytes → Prop where
  | start : Reaches values text [] text
  | piece {done value rest after : Bytes} {first : UInt8} {piece : Piece}
      (before : Reaches values text done (first :: rest))
      (found : Piece.next first rest = some (piece, after))
      (evaluates : piece.value values = some value) : Reaches values text (done ++ value) after

variable {depth start place : Nat} {byte : UInt8} {text body rest after : Bytes}

theorem openings_append (apart : rest.head? ≠ some Byte.openBrace) (text : Bytes) :
    openings (text ++ rest) = openings text + openings rest := by
  induction text with
  | nil => simp [openings]
  | cons byte text ih =>
      rw [List.cons_append, openings, openings, ih, Nat.add_assoc]
      simp only [head?_append_eq_some_iff apart]

theorem head?_closeBrace_ne (rest : Bytes) :
    (Byte.closeBrace :: rest).head? ≠ some Byte.openBrace := by
  have differ : Byte.closeBrace ≠ Byte.openBrace := by decide
  simpa using differ

@[simp]
theorem openings_close (rest : Bytes) : openings (Byte.closeBrace :: rest) = openings rest := by
  have notDollar : Byte.closeBrace ≠ Byte.dollar := by decide
  rw [openings, if_neg fun pair => notDollar pair.1, Nat.zero_add]

theorem count_close (text : Bytes) :
    (text ++ [Byte.closeBrace]).count Byte.closeBrace = text.count Byte.closeBrace + 1 := by
  rw [List.count_append, List.count_singleton_self]

theorem openings_close_end (text : Bytes) :
    openings (text ++ [Byte.closeBrace]) = openings text := by
  rw [openings_append (head?_closeBrace_ne []), openings_close, openings, Nat.add_zero]

theorem opens_of_isPrefix {front : Bytes} (isFront : front <+: rest)
    (opens : front.head? = some Byte.openBrace) : rest.head? = some Byte.openBrace := by
  obtain ⟨tail, rfl⟩ := isFront
  cases front with
  | nil => cases opens
  | cons next front => exact opens

theorem within_nil : Within depth [] := by
  intro front isFront
  simp [List.prefix_nil.mp isFront]

theorem within_cons_iff (notBrace : byte ≠ Byte.closeBrace) :
    Within depth (byte :: rest) ↔
      Within (depth + if byte = Byte.dollar ∧ rest.head? = some Byte.openBrace then 1 else 0)
        rest := by
  constructor
  · intro within front isFront
    have bound := within (byte :: front) (List.cons_prefix_cons.mpr ⟨rfl, isFront⟩)
    rw [List.count_cons_of_ne notBrace, openings] at bound
    refine Nat.le_trans bound ?_
    by_cases opens : byte = Byte.dollar ∧ front.head? = some Byte.openBrace
    · have opened := opens_of_isPrefix isFront opens.2
      simp [opens, opened, Nat.add_assoc]
    · simp only [if_neg opens]
      omega
  · -- A dollar that ends the front opens nothing in it, and closes nothing either.
    intro within front isFront
    rcases List.prefix_cons_iff.mp isFront with rfl | ⟨tail, rfl, isTail⟩
    · simp
    · rw [List.count_cons_of_ne notBrace, openings]
      cases tail with
      | nil => simp
      | cons next tail =>
          obtain ⟨others, rfl⟩ := isTail
          rw [← Nat.add_assoc]
          exact within (next :: tail) (List.prefix_append _ _)

theorem within_close_iff :
    Within (depth + 1) (Byte.closeBrace :: rest) ↔ Within depth rest := by
  constructor
  · intro within front isFront
    have bound := within (Byte.closeBrace :: front) (List.cons_prefix_cons.mpr ⟨rfl, isFront⟩)
    rw [List.count_cons_self, openings_close] at bound
    omega
  · intro within front isFront
    rcases List.prefix_cons_iff.mp isFront with rfl | ⟨tail, rfl, isTail⟩
    · simp
    · have bound := within tail isTail
      rw [List.count_cons_self, openings_close]
      omega

theorem not_within_close : ¬Within 0 (Byte.closeBrace :: rest) := by
  intro within
  have bound := within [Byte.closeBrace] (by simp)
  simp [openings] at bound

theorem closingBrace?_eq_none_iff : closingBrace? depth text = none ↔ Within depth text := by
  induction text generalizing depth with
  | nil => exact iff_of_true rfl within_nil
  | cons byte rest ih =>
      by_cases isBrace : byte = Byte.closeBrace
      · subst isBrace
        cases depth with
        | zero => simp [not_within_close]
        | succ outer =>
            rw [closingBrace?_close_succ, Option.map_eq_none_iff, ih, within_close_iff]
      · rw [closingBrace?_cons isBrace, Option.map_eq_none_iff, ih, within_cons_iff isBrace]

theorem closingBrace?_append_iff :
    closingBrace? depth (body ++ Byte.closeBrace :: after) = some body.length ↔
      Balanced depth body := by
  rw [balanced_iff]
  induction body generalizing depth with
  | nil =>
      cases depth with
      | zero => exact iff_of_true (closingBrace?_close_zero after) ⟨within_nil, rfl⟩
      | succ outer => simp [openings]
  | cons byte body ih =>
      rw [List.cons_append, List.length_cons]
      by_cases isBrace : byte = Byte.closeBrace
      · subst isBrace
        cases depth with
        | zero => simp [not_within_close]
        | succ outer =>
            rw [closingBrace?_close_succ, Option.map_eq_some_iff, within_close_iff,
              List.count_cons_self, openings_close, Nat.add_right_comm]
            simp only [Nat.add_right_cancel_iff, exists_eq_right, ih]
      · -- The brace behind the body is none that a dollar at its end could open.
        have head := @head?_append_eq_some_iff body _ _ (head?_closeBrace_ne after)
        rw [closingBrace?_cons isBrace, Option.map_eq_some_iff, within_cons_iff isBrace,
          List.count_cons_of_ne isBrace, openings, ← Nat.add_assoc]
        simp only [Nat.add_right_cancel_iff, exists_eq_right, head, ih]

theorem extract_of_split (split : text.drop start = body ++ Byte.closeBrace :: after) :
    text.extract start (start + body.length) = body ∧
      text.extract start (start + body.length + 1) = body ++ [Byte.closeBrace] := by
  constructor
  · rw [List.extract_eq_take_drop, Nat.add_sub_cancel_left, split, List.take_left]
  · have longer : start + body.length + 1 - start = (body ++ [Byte.closeBrace]).length := by
      rw [List.length_append, List.length_singleton]
      omega
    have whole : text.drop start = (body ++ [Byte.closeBrace]) ++ after := by simp [split]
    rw [List.extract_eq_take_drop, longer, whole, List.take_left]

theorem closes_iff : Closes text start place ↔
    ∃ body after, text.drop start = body ++ Byte.closeBrace :: after ∧
      start + body.length = place ∧ openings body ≤ body.count Byte.closeBrace := by
  constructor
  · rintro ⟨behind, here, more⟩
    obtain ⟨offset, rfl⟩ := Nat.exists_eq_add_of_le behind
    rw [← List.getElem?_drop] at here
    obtain ⟨within, here⟩ := List.getElem?_eq_some_iff.mp here
    have split : text.drop start = (text.drop start).take offset ++
        Byte.closeBrace :: (text.drop start).drop (offset + 1) := by
      rw [← here, ← List.drop_eq_getElem_cons within, List.take_append_drop]
    have length : ((text.drop start).take offset).length = offset :=
      List.length_take_of_le within.le
    have windows := extract_of_split split
    rw [length] at windows
    rw [windows.1, windows.2, count_close] at more
    exact ⟨_, _, split, by rw [length], Nat.le_of_lt_succ more⟩
  · rintro ⟨body, after, split, rfl, more⟩
    have windows := extract_of_split split
    refine ⟨Nat.le_add_right _ _, ?_, ?_⟩
    · rw [← List.getElem?_drop, split]
      simp
    · rw [windows.1, windows.2, count_close]
      exact Nat.lt_succ_of_le more

theorem exists_split_of_closingBrace? {position : Nat}
    (found : closingBrace? depth text = some position) :
    ∃ body after, text = body ++ Byte.closeBrace :: after ∧ body.length = position ∧
      Balanced depth body := by
  have split := take_append_closingBrace? found
  have within : position ≤ text.length := by
    have lengths := congrArg List.length split
    simp only [List.length_append, List.length_take, List.length_cons, List.length_drop] at lengths
    omega
  have length := List.length_take_of_le within
  refine ⟨text.take position, _, split.symm, length, ?_⟩
  apply closingBrace?_append_iff.mp
  rw [split, length, found]

/-- Where a balanced body ends, nothing in front of it closes more than is open. -/
theorem Balanced.isLeast (balanced : Balanced 0 body)
    (split : text.drop start = body ++ Byte.closeBrace :: after) :
    IsLeast {place | Closes text start place} (start + body.length) := by
  constructor
  · refine closes_iff.mpr ⟨body, after, split, rfl, ?_⟩
    rw [balanced.closed, Nat.zero_add]
  · -- A shorter text in front of a closing brace is, with the brace, a front of the body.
    intro place closes
    obtain ⟨early, later, earlySplit, rfl, more⟩ := closes_iff.mp closes
    by_contra before
    have shorter : (early ++ [Byte.closeBrace]).length ≤ body.length := by
      rw [List.length_append, List.length_singleton]
      omega
    have isFront : early ++ [Byte.closeBrace] <+: body := by
      have front : early ++ [Byte.closeBrace] <+: text.drop start := ⟨later, by simp [earlySplit]⟩
      rw [split] at front
      exact List.prefix_of_prefix_length_le front (List.prefix_append body _) shorter
    have bound := balanced.within _ isFront
    rw [count_close, openings_close_end] at bound
    omega

theorem closingBraceFrom?_eq_none_iff :
    closingBraceFrom? text start = none ↔ ∀ place, ¬Closes text start place := by
  rw [closingBraceFrom?, Option.map_eq_none_iff]
  constructor
  · intro absent place closes
    obtain ⟨body, after, split, _, more⟩ := closes_iff.mp closes
    rw [split, closingBrace?_eq_none_iff] at absent
    have bound := absent (body ++ [Byte.closeBrace]) ⟨after, by simp⟩
    rw [count_close, openings_close_end] at bound
    omega
  · intro free
    cases found : closingBrace? 0 (text.drop start) with
    | none => rfl
    | some offset =>
        obtain ⟨body, after, split, _, balanced⟩ := exists_split_of_closingBrace? found
        exact absurd (balanced.isLeast split).1 (free _)

theorem closingBraceFrom?_eq_some_iff : closingBraceFrom? text start = some place ↔
    IsLeast {place | Closes text start place} place := by
  have least {place : Nat} (found : closingBraceFrom? text start = some place) :
      IsLeast {place | Closes text start place} place := by
    obtain ⟨offset, inside, rfl⟩ := Option.map_eq_some_iff.mp found
    obtain ⟨body, after, split, rfl, balanced⟩ := exists_split_of_closingBrace? inside
    exact balanced.isLeast split
  constructor
  · exact least
  · intro isLeast
    cases found : closingBraceFrom? text start with
    | none => exact absurd isLeast.1 (closingBraceFrom?_eq_none_iff.mp found place)
    | some other => rw [(least found).unique isLeast]

theorem Reaches.split {values : Variables} {done : Bytes}
    (reaches : Reaches values text done rest) :
    (∃ front, text = front ++ rest) ∧
      expand values text = (expand values rest).map (done ++ ·) := by
  induction reaches with
  | start => exact ⟨⟨[], rfl⟩, by simp⟩
  | @piece done value rest after first piece before found evaluates ih =>
      obtain ⟨⟨front, whole⟩, expands⟩ := ih
      constructor
      · refine ⟨front ++ piece.text, ?_⟩
        rw [whole, List.append_assoc, Piece.text_append_of_next found]
      · rw [expands, expand_of_next found evaluates, Option.map_map]
        simp [Function.comp_def]

theorem braced_of_next {first : UInt8}
    (found : Piece.next first rest = some (.braced body, after)) :
    first :: rest = Byte.dollar :: Byte.openBrace :: (body ++ Byte.closeBrace :: after) ∧
      Balanced 0 body := by
  rcases Piece.next_cases found with ⟨⟨⟩, _⟩ | ⟨_, ⟨⟩, _⟩ | ⟨⟨⟩, _⟩ | ⟨_, ⟨⟩, rfl, rfl⟩
  rw [Piece.next_dollar_brace, Option.map_eq_some_iff] at found
  obtain ⟨position, found, read⟩ := found
  obtain ⟨taken, _⟩ := Prod.mk.inj read
  obtain ⟨_, _, split, rfl, balanced⟩ := exists_split_of_closingBrace? found
  rw [split, List.take_left] at taken
  obtain rfl := Piece.braced.inj taken
  exact ⟨rfl, balanced⟩

/-- The closing brace that is found is the first that closes more than was opened.  Each body that
an expansion comes to is balanced and stands in the text between its braces, and the expansion
goes on behind the brace that is found for it. -/
theorem isLeast_closingBrace (text : Bytes) :
    (∀ start place, closingBraceFrom? text start = some place ↔
      IsLeast {place | Closes text start place} place) ∧
    (∀ start, closingBraceFrom? text start = none ↔ ∀ place, ¬Closes text start place) ∧
    ∀ values done first rest body after,
      Reaches values text done (first :: rest) →
      Piece.next first rest = some (.braced body, after) →
        openings body = body.count Byte.closeBrace ∧
        (∀ front, front <+: body → front.count Byte.closeBrace ≤ openings front) ∧
        body.length + 3 ≤ text.length ∧
        (∃ before, text = before ++ (Piece.braced body).text ++ after ∧
          closingBraceFrom? text (before.length + 2) = some (before.length + 2 + body.length)) ∧
        expand values text = ((Piece.braced body).value values).bind fun value =>
          (expand values after).map (done ++ value ++ ·) := by
  refine ⟨fun _ _ => closingBraceFrom?_eq_some_iff, fun _ => closingBraceFrom?_eq_none_iff, ?_⟩
  intro values done first rest body after reaches found
  obtain ⟨⟨before, whole⟩, expands⟩ := reaches.split
  obtain ⟨braced, balanced⟩ := braced_of_next found
  have stands : text = before ++ (Piece.braced body).text ++ after := by
    rw [whole, braced]
    simp [Piece.text]
  have opened : text.drop (before.length + 2) = body ++ Byte.closeBrace :: after := by
    rw [whole, braced, ← List.drop_drop, List.drop_left]
    rfl
  refine ⟨?_, ?_, ?_, ⟨before, stands, ?_⟩, ?_⟩
  · simpa using balanced.closed.symm
  · simpa [Within] using balanced.within
  · have lengths := congrArg List.length stands
    simp only [Piece.text, List.length_append, List.length_cons, List.length_nil] at lengths
    omega
  · exact closingBraceFrom?_eq_some_iff.mpr (balanced.isLeast opened)
  · cases evaluated : (Piece.braced body).value values with
    | none =>
        rw [expands, expand_cons, found, Option.bind_some]
        simp [evaluated]
    | some value =>
        rw [Option.bind_some]
        exact (reaches.piece found evaluated).split.2

/-- A default in a default, in front of a dollar at the end. -/
theorem isLeast_closingBrace_nested :
    let values : Variables := Variables.ofPairs [(ascii "B", ascii "b")]
    let body := ascii "A:-$\x7bB\x7dx"
    let rest := ascii "\x7bA:-$\x7bB\x7dx\x7d$"
    let text := 97 :: Byte.dollar :: rest
    Reaches values text [97] (Byte.dollar :: rest) ∧
      Piece.next Byte.dollar rest = some (.braced body, ascii "$") ∧
      openings body = body.count Byte.closeBrace ∧
      expand values text = some (ascii "abx$") := by
  intro values body rest text
  have first : Piece.next 97 (Byte.dollar :: rest) = some (.byte 97, Byte.dollar :: rest) := rfl
  have reaches : Reaches values text [97] (Byte.dollar :: rest) := .piece .start first rfl
  have found : Piece.next Byte.dollar rest = some (.braced body, ascii "$") := by decide +kernel
  obtain ⟨balanced, _, _, _, expands⟩ :=
    (isLeast_closingBrace text).2.2 values [97] Byte.dollar rest body (ascii "$") reaches found
  exact ⟨reaches, found, balanced, expands.trans (by decide +kernel)⟩

end TradeLocal.Expansion
