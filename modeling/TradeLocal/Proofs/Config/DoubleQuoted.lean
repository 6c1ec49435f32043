import TradeLocal.Proofs.Config.Written

/-!
# Escaped values between double quotes

Expansion reads a double quote behind a backslash as a quote, but a value between double quotes
ends at the first one, whatever stands in front.  So an escaped value is read back from between
double quotes only if it holds none.
-/

namespace TradeLocal.Config

open Expansion

/-- An escaped text between double quotes. -/
def doubleQuoted (text : Bytes) : Bytes :=
  Byte.doubleQuote :: escape text ++ [Byte.doubleQuote]

namespace Line

theorem last_doubleQuoted (text : Bytes) :
    ((doubleQuoted text).getLast?.all fun byte => !Byte.isSpace byte) = true := by
  rw [doubleQuoted, List.getLast?_append_of_ne_nil _ (by simp)]
  rfl

theorem ofText_doubleQuoted {name text : Bytes} (valid : Bytes.isVariableName name = true)
    (unquoted : Byte.doubleQuote ∉ text) :
    ofText (assign name (doubleQuoted text)) = .assignment name (.expandable (escape text)) := by
  have quotes : isQuote Byte.doubleQuote = true := rfl
  have read : readValue (doubleQuoted text) = some (.expandable (escape text), []) :=
    readValue_quoted quotes (notMem_escape (by decide) unquoted)
  rw [ofText_assign_of_readValue valid (last_doubleQuoted text) read]
  rfl

theorem isIgnorable_escape (after : Bytes) :
    isIgnorable (escape after ++ [Byte.doubleQuote]) = true ↔
      (Bytes.trimLeft after).head? = some Byte.hash := by
  induction after with
  | nil => decide
  | cons byte after ih =>
      by_cases listed : byte ∈ Token.escapable
      · have ordinary : Token.escapable.all
            (fun byte => !Byte.isSpace byte && byte != Byte.hash) = true := by decide
        have ⟨notSpace, notHash⟩ : Byte.isSpace byte = false ∧ byte ≠ Byte.hash := by
          simpa using List.all_eq_true.mp ordinary byte listed
        have backslash (rest : Bytes) : isIgnorable (Byte.backslash :: rest) = false :=
          isIgnorable_cons _ rest
        simp [escape_cons_of_mem listed, backslash, Bytes.trimLeft_cons, notSpace, notHash]
      · rw [escape_cons_of_notMem listed, List.cons_append, isIgnorable_cons,
          Bytes.trimLeft_cons]
        split
        · exact ih
        · simp

/-- The value ends at the first double quote.  The backslash in front of that one is left in the
value, and all behind it has to be a comment. -/
theorem ofText_doubleQuoted_quote {name before : Bytes} (valid : Bytes.isVariableName name = true)
    (first : Byte.doubleQuote ∉ before) (after : Bytes) :
    ofText (assign name (doubleQuoted (before ++ Byte.doubleQuote :: after))) =
      if (Bytes.trimLeft after).head? = some Byte.hash then
        .assignment name (.expandable (escape before ++ [Byte.backslash]))
      else .trailing name := by
  have inside : Byte.doubleQuote ∉ escape before ++ [Byte.backslash] := by
    have escaped := notMem_escape (by decide) first
    simp [escaped]
    decide
  have read : readValue (doubleQuoted (before ++ Byte.doubleQuote :: after)) =
      some (.expandable (escape before ++ [Byte.backslash]),
        escape after ++ [Byte.doubleQuote]) := by
    have written : doubleQuoted (before ++ Byte.doubleQuote :: after) =
        Byte.doubleQuote :: (escape before ++ [Byte.backslash] ++
          Byte.doubleQuote :: (escape after ++ [Byte.doubleQuote])) := by
      rw [doubleQuoted, escape_append, escape_cons_of_mem (by decide)]
      simp
    rw [written]
    have quotes : isQuote Byte.doubleQuote = true := rfl
    exact readValue_quoted quotes inside
  rw [ofText_assign_of_readValue valid (last_doubleQuoted _) read]
  simp only [isIgnorable_escape]

end Line

theorem newline_notMem_doubleQuoted {text : Bytes} (oneLine : Byte.newline ∉ text) :
    Byte.newline ∉ doubleQuoted text := by
  have notQuote : Byte.newline ≠ Byte.doubleQuote := by decide
  simp [doubleQuoted, notMem_escape (by decide) oneLine, notQuote]

theorem splitOn_doubleQuoted {name text : Bytes} (valid : Bytes.isVariableName name = true)
    (oneLine : Byte.newline ∉ text) :
    Bytes.splitOn Byte.newline (assign name (doubleQuoted text)) =
      [assign name (doubleQuoted text)] :=
  Bytes.splitOn_of_notMem (newline_notMem_assign valid (newline_notMem_doubleQuoted oneLine))

section DoubleQuoted

variable (environment : Variables) (number : Nat) (assignments : Assignments)

theorem parseLines_doubleQuoted_of_notMem {name text : Bytes}
    (valid : Bytes.isVariableName name = true) (unquoted : Byte.doubleQuote ∉ text) :
    parseLines environment number assignments [assign name (doubleQuoted text)] =
      ⟨[], .ok (assignments.set name text)⟩ := by
  rw [parseLines_assignment (Line.ofText_doubleQuoted valid unquoted) (expand_escape _ text),
    parseLines]

theorem parseLines_doubleQuoted_of_quote {name before : Bytes}
    (valid : Bytes.isVariableName name = true) (first : Byte.doubleQuote ∉ before)
    (after : Bytes) :
    parseLines environment number assignments
        [assign name (doubleQuoted (before ++ Byte.doubleQuote :: after))] =
      if (Bytes.trimLeft after).head? = some Byte.hash then
        ⟨[], .ok (assignments.set name (before ++ [Byte.backslash]))⟩
      else ⟨[⟨number, .trailingText name⟩], .ok assignments⟩ := by
  have read := Line.ofText_doubleQuoted_quote valid first after
  by_cases comment : (Bytes.trimLeft after).head? = some Byte.hash
  · have backslash (values : Variables) :
        expand values [Byte.backslash] = some [Byte.backslash] := by
      rw [expand_of_next Piece.next_backslash_nil rfl, expand_nil]
      rfl
    have value : (Value.expandable (escape before ++ [Byte.backslash])).expand
        (assignments.shadowing environment) = some (before ++ [Byte.backslash]) := by
      rw [Value.expand, expand_escape_append, backslash, Option.map_some]
    rw [if_pos comment] at read ⊢
    rw [parseLines_assignment read value, parseLines]
  · rw [if_neg comment] at read ⊢
    rw [parseLines, read, Line.effect, parseLines]

/-- An escaped value between double quotes is read back exactly when it holds no double quote.
Otherwise the value is cut off, or lost with a note. -/
theorem parseLines_doubleQuoted {name text : Bytes} (valid : Bytes.isVariableName name = true)
    (oneLine : Byte.newline ∉ text) :
    let parsed := parseLines environment number assignments
      (Bytes.splitOn Byte.newline (assign name (doubleQuoted text)))
    (parsed = ⟨[], .ok (assignments.set name text)⟩ ↔ Byte.doubleQuote ∉ text) ∧
    ∀ before after, text = before ++ Byte.doubleQuote :: after → Byte.doubleQuote ∉ before →
      parsed =
        if (Bytes.trimLeft after).head? = some Byte.hash then
          ⟨[], .ok (assignments.set name (before ++ [Byte.backslash]))⟩
        else ⟨[⟨number, .trailingText name⟩], .ok assignments⟩ := by
  intro parsed
  have line : parsed = parseLines environment number assignments
      [assign name (doubleQuoted text)] :=
    congrArg _ (splitOn_doubleQuoted valid oneLine)
  rw [line]
  refine ⟨⟨?_, parseLines_doubleQuoted_of_notMem environment number assignments valid⟩, ?_⟩
  · intro readBack member
    obtain ⟨before, after, rfl, first⟩ := List.eq_append_cons_of_mem member
    rw [parseLines_doubleQuoted_of_quote environment number assignments valid first] at readBack
    split at readBack
    · have cut : before ++ [Byte.backslash] = before ++ Byte.doubleQuote :: after := by
        simpa [Assignments.set] using readBack
      have differ : Byte.backslash ≠ Byte.doubleQuote := by decide
      exact differ (List.cons.inj (List.append_cancel_left cut)).1
    · cases readBack
  · rintro before after rfl first
    exact parseLines_doubleQuoted_of_quote environment number assignments valid first after

end DoubleQuoted

/-- Blanks, a hash and a dollar in front of a brace, behind an earlier value of the name. -/
theorem parseLines_doubleQuoted_hash :
    let earlier := ({} : Assignments).set (ascii "A") (ascii "b")
    let text := ascii " # $\x7bA\x7d\\ "
    Bytes.isVariableName (ascii "A") = true ∧ Byte.newline ∉ text ∧
      parseLines (fun _ => none) 7 earlier
          (Bytes.splitOn Byte.newline (ascii "A=\" # \\$\x7bA\x7d\\\\ \"")) =
        ⟨[], .ok (earlier.set (ascii "A") text)⟩ := by
  intro earlier text
  have valid : Bytes.isVariableName (ascii "A") = true := by decide
  have oneLine : Byte.newline ∉ text := by decide
  refine ⟨valid, oneLine, ?_⟩
  exact (parseLines_doubleQuoted (fun _ => none) 7 earlier valid oneLine).1.mpr (by decide)

/-- Not every text on one line is protected between double quotes. -/
theorem not_parseLines_doubleQuoted :
    ¬∀ (environment : Variables) (number : Nat) (assignments : Assignments) (name text : Bytes),
      Bytes.isVariableName name = true → Byte.newline ∉ text →
      parseLines environment number assignments
          (Bytes.splitOn Byte.newline (assign name (doubleQuoted text))) =
        ⟨[], .ok (assignments.set name text)⟩ := by
  intro claimed
  have readBack := claimed (fun _ => none) 1 {} (ascii "A") (ascii "say \"hi\"") (by decide)
    (by decide)
  have notes := congrArg Parsed.notes readBack
  revert notes
  decide +kernel

end TradeLocal.Config
