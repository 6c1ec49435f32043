import Mathlib.Data.List.Forall2
import TradeLocal.Proofs.Config.FinalValue
import TradeLocal.Proofs.Config.Written

/-!
# Layout

What a file means does not depend on its layout: on the whitespace at the ends of its lines, on
the word `export` and a comment around an assignment, or on double quotes around a bare value.
Each change leaves the line what it was, so the lines have the same effects one after the other.
-/

namespace TradeLocal.Config

/-- What may stand at the ends of a line: spaces, tabs, vertical tabs, form feeds and carriage
returns. -/
def Padding (text : Bytes) : Prop :=
  ∀ byte ∈ text, byte ∈ [Byte.space, 9, 11, 12, 13]

instance (text : Bytes) : Decidable (Padding text) :=
  List.decidableBAll (· ∈ [Byte.space, 9, 11, 12, 13]) text

/-- Another way to write an assignment, both without whitespace at the ends. -/
inductive Rewritten : Bytes → Bytes → Prop where
  | exported {line blanks : Bytes}
      (word : line.takeWhile (!Byte.isBlank ·) ≠ ascii "export")
      (separated : blanks ≠ []) (blank : ∀ byte ∈ blanks, Byte.isBlank byte = true) :
      Rewritten line (ascii "export" ++ blanks ++ line)
  | commented {line comment : Bytes} {blank : UInt8} (separated : Byte.isBlank blank = true)
      (oneLine : Byte.newline ∉ comment) :
      Rewritten line (line ++ blank :: Byte.hash :: comment)
  /-- The bare value stands between the first equals sign and the next blank. -/
  | quoted {front value tail : Bytes} (first : Byte.equals ∉ front)
      (bare : (value.head?.all fun byte => !Line.isQuote byte) = true)
      (unbroken : ∀ byte ∈ value, Byte.isBlank byte = false)
      (ended : (tail.head?.all Byte.isBlank) = true) (unquoted : Byte.doubleQuote ∉ value) :
      Rewritten (front ++ Byte.equals :: (value ++ tail))
        (front ++ Byte.equals :: Byte.doubleQuote :: (value ++ Byte.doubleQuote :: tail))

/-- Another layout of a line.  Only a line that assigns may be written in another way. -/
inductive Relaid (assigns : Prop) (line : Bytes) : Bytes → Prop where
  | padded {before after : Bytes} (paddingBefore : Padding before) (paddingAfter : Padding after) :
      Relaid assigns line (before ++ line ++ after)
  | rewritten {before after statement : Bytes} (assigning : assigns)
      (paddingBefore : Padding before) (paddingAfter : Padding after)
      (rewritten : Rewritten (Bytes.trim line) statement) :
      Relaid assigns line (before ++ statement ++ after)

/-- Another layout of all lines of a file that is read in the environment. -/
structure Layout (environment : Variables) (lines others : List Bytes) : Prop where
  length : others.length = lines.length
  relaid : ∀ position line other, lines[position]? = some line → others[position]? = some other →
    Relaid (Assigned environment lines position) line other

def withReturns (text : Bytes) : Bytes :=
  text.flatMap fun byte => if byte = Byte.newline then [13, Byte.newline] else [byte]

theorem isSpace_of_mem_padding {text : Bytes} (padding : Padding text) :
    ∀ byte ∈ text, Byte.isSpace byte = true := by
  intro byte member
  have listed : [Byte.space, 9, 11, 12, 13].all Byte.isSpace = true := by decide
  exact List.all_eq_true.mp listed byte (padding byte member)

theorem newline_notMem_of_padding {text : Bytes} (padding : Padding text) :
    Byte.newline ∉ text := by
  intro member
  have listed := padding Byte.newline member
  revert listed
  decide

theorem trim_of_padding {before after : Bytes} (paddingBefore : Padding before)
    (paddingAfter : Padding after) (text : Bytes) :
    Bytes.trim (before ++ text ++ after) = Bytes.trim text :=
  Bytes.trim_append_of_isSpace (isSpace_of_mem_padding paddingBefore)
    (isSpace_of_mem_padding paddingAfter) text

namespace Line

theorem readValue_eq_some_iff {text tail : Bytes} {value : Value} :
    readValue text = some (value, tail) ↔
      (∃ quote inside, isQuote quote = true ∧ quote ∉ inside ∧
        text = quote :: (inside ++ quote :: tail) ∧
        value = if quote = Byte.singleQuote then .literal inside else .expandable inside) ∨
      ∃ bare, (bare.head?.all fun byte => !isQuote byte) = true ∧
        (∀ byte ∈ bare, Byte.isBlank byte = false) ∧ (tail.head?.all Byte.isBlank) = true ∧
        text = bare ++ tail ∧ value = .expandable bare := by
  constructor
  · intro read
    cases text with
    | nil =>
        obtain ⟨rfl, rfl⟩ : Value.expandable [] = value ∧ [] = tail := by
          simpa [readValue] using read
        exact .inr ⟨[], rfl, by simp, rfl, rfl, rfl⟩
    | cons first rest =>
        rw [readValue] at read
        split at read
        · next quotes =>
            split at read
            · cases read
            · next close after closed =>
                obtain ⟨whole, inside, ended⟩ := Bytes.split_iff.mp ⟨rfl, closed⟩
                obtain rfl : close = first := by simpa using ended
                obtain ⟨rfl, rfl⟩ := Prod.mk.inj (Option.some.inj read)
                refine .inl ⟨close, rest.takeWhile (· != close), quotes, ?_, ?_, rfl⟩
                · intro member
                  simpa using inside close member
                · rw [← whole]
        · next bare =>
            obtain ⟨rfl, rfl⟩ := Prod.mk.inj (Option.some.inj read)
            obtain ⟨whole, unbroken, ended⟩ :=
              Bytes.split_iff.mp ⟨rfl, (rfl : (first :: rest).dropWhile (!Byte.isBlank ·) = _)⟩
            refine .inr ⟨_, ?_, ?_, ?_, whole, rfl⟩
            · by_cases blank : Byte.isBlank first = true
              · simp [blank]
              · simp [blank, bare]
            · intro byte member
              simpa using unbroken byte member
            · simpa using ended
  · rintro (⟨quote, inside, quotes, unclosed, rfl, rfl⟩ |
      ⟨bare, unquoted, unbroken, ended, rfl, rfl⟩)
    · exact readValue_quoted quotes unclosed
    · exact readValue_bare_append unquoted unbroken ended

theorem readValue_append {text tail more : Bytes} {value : Value}
    (read : readValue text = some (value, tail)) (separated : (more.head?.all Byte.isBlank) = true) :
    readValue (text ++ more) = some (value, tail ++ more) := by
  rcases readValue_eq_some_iff.mp read with ⟨quote, inside, quotes, unclosed, rfl, rfl⟩ |
    ⟨bare, unquoted, unbroken, ended, rfl, rfl⟩
  · rw [List.cons_append, List.append_assoc, List.cons_append]
    exact readValue_quoted quotes unclosed
  · rw [List.append_assoc]
    apply readValue_bare_append unquoted unbroken
    cases tail with
    | nil => exact separated
    | cons blank rest => exact ended

theorem isIgnorable_append_comment {tail : Bytes} {blank : UInt8}
    (ignorable : isIgnorable tail = true) (separated : Byte.isBlank blank = true)
    (comment : Bytes) : isIgnorable (tail ++ blank :: Byte.hash :: comment) = true := by
  induction tail with
  | nil =>
      rw [List.nil_append, isIgnorable_cons, if_pos (Byte.isSpace_of_isBlank separated)]
      rfl
  | cons byte rest ih =>
      rw [isIgnorable_cons] at ignorable
      rw [List.cons_append, isIgnorable_cons]
      split at ignorable
      · next space =>
          rw [if_pos space]
          exact ih ignorable
      · next visible =>
          rw [if_neg visible]
          exact ignorable

theorem ofAssignment_eq_assignment_iff {name text other : Bytes} {value : Value} :
    ofAssignment name text = .assignment other value ↔
      name = other ∧ ∃ tail, readValue text = some (value, tail) ∧ isIgnorable tail = true := by
  rw [ofAssignment]
  cases read : readValue text with
  | none => simp
  | some found =>
      obtain ⟨present, tail⟩ := found
      by_cases ignorable : isIgnorable tail = true
      · simp only [if_pos ignorable, assignment.injEq, Option.some.injEq, Prod.mk.injEq]
        grind
      · simp only [if_neg ignorable, reduceCtorEq, Option.some.injEq, Prod.mk.injEq]
        grind

theorem ofStatement_append_equals {front : Bytes} (first : Byte.equals ∉ front) (text : Bytes) :
    ofStatement (front ++ Byte.equals :: text) =
      if Bytes.isVariableName front then ofAssignment front text else .foreign := by
  obtain ⟨taken, dropped⟩ := Bytes.split_of_notMem first text
  rw [ofStatement, dropped, taken]

theorem mem_of_mem_dropExport {byte : UInt8} {line : Bytes} (member : byte ∈ dropExport line) :
    byte ∈ line := by
  rw [dropExport] at member
  split at member
  · exact (List.dropWhile_sublist _).subset ((List.dropWhile_sublist _).subset member)
  · exact member

/-- The word `export` is dropped in front of the first equals sign or not at all. -/
theorem dropExport_append_equals {front : Bytes} (first : Byte.equals ∉ front) :
    ∃ name, Byte.equals ∉ name ∧
      ∀ text, dropExport (front ++ Byte.equals :: text) = name ++ Byte.equals :: text := by
  by_cases unbroken : ∀ byte ∈ front, Byte.isBlank byte = false
  · -- The first word goes on behind the equals sign, which `export` does not hold.
    exact ⟨front, first, dropExport_of_unbroken unbroken⟩
  · have broken : ¬∀ byte ∈ front, (!Byte.isBlank byte) = true := by simpa using unbroken
    by_cases word : front.takeWhile (!Byte.isBlank ·) = ascii "export"
    · refine ⟨Bytes.trimLeft (front.dropWhile (!Byte.isBlank ·)), ?_, ?_⟩
      · intro member
        exact first ((List.dropWhile_sublist _).subset ((List.dropWhile_sublist _).subset member))
      · intro text
        obtain ⟨taken, dropped⟩ := Bytes.split_append broken (Byte.equals :: text)
        have visible : Byte.isSpace Byte.equals = false := by decide
        rw [dropExport, taken, if_pos word, dropped,
          Bytes.trimLeft_append_of_not_isSpace visible]
    · refine ⟨front, first, fun text => ?_⟩
      obtain ⟨taken, _⟩ := Bytes.split_append broken (Byte.equals :: text)
      rw [dropExport, taken, if_neg word]

/-- What stands in front of the first equals sign decides about the name and nothing else. -/
theorem ofTrimmed_append_equals {front : Bytes} (first : Byte.equals ∉ front)
    (notComment : front.head? ≠ some Byte.hash) :
    ∃ name, ∀ text, ofTrimmed (front ++ Byte.equals :: text) =
      if Bytes.isVariableName name then ofAssignment name text else .foreign := by
  obtain ⟨name, nameFirst, dropped⟩ := dropExport_append_equals first
  refine ⟨name, fun text => ?_⟩
  have statement : ofTrimmed (front ++ Byte.equals :: text) =
      ofStatement (dropExport (front ++ Byte.equals :: text)) := by
    cases front with
    | nil => rfl
    | cons byte rest =>
        have notHash : byte ≠ Byte.hash := by simpa using notComment
        rw [List.cons_append, ofTrimmed, if_neg notHash]
  rw [statement, dropped, ofStatement_append_equals nameFirst]

theorem head?_ne_hash_of_assignment {line name : Bytes} {value : Value}
    (read : ofTrimmed line = .assignment name value) : line.head? ≠ some Byte.hash := by
  intro comment
  cases line with
  | nil => cases comment
  | cons byte rest =>
      obtain rfl : byte = Byte.hash := by simpa using comment
      cases read

theorem equals_mem_of_assignment {line name : Bytes} {value : Value}
    (read : ofTrimmed line = .assignment name value) : Byte.equals ∈ line := by
  by_contra absent
  cases line with
  | nil => cases read
  | cons byte rest =>
      have nowhere : ∀ other ∈ dropExport (byte :: rest), (other != Byte.equals) = true := by
        intro other member
        rw [bne_iff_ne]
        rintro rfl
        exact absent (mem_of_mem_dropExport member)
      rw [ofTrimmed] at read
      split at read
      · cases read
      · rw [ofStatement, List.dropWhile_eq_nil_iff.mpr nowhere] at read
        cases read

theorem ofTrimmed_replace {front text other name : Bytes} {value : Value}
    (first : Byte.equals ∉ front)
    (read : ofTrimmed (front ++ Byte.equals :: text) = .assignment name value)
    (same : ∀ tail, readValue text = some (value, tail) → isIgnorable tail = true →
      ∃ otherTail, readValue other = some (value, otherTail) ∧ isIgnorable otherTail = true) :
    ofTrimmed (front ++ Byte.equals :: other) = .assignment name value := by
  have notComment : front.head? ≠ some Byte.hash := by
    intro comment
    apply head?_ne_hash_of_assignment read
    rw [List.head?_append, comment, Option.some_or]
  obtain ⟨named, reads⟩ := ofTrimmed_append_equals first notComment
  rw [reads] at read ⊢
  split at read
  · next valid =>
      obtain ⟨rfl, tail, value, ignorable⟩ := ofAssignment_eq_assignment_iff.mp read
      rw [if_pos valid]
      exact ofAssignment_eq_assignment_iff.mpr ⟨rfl, same tail value ignorable⟩
  · cases read

theorem ofTrimmed_exported {line blanks name : Bytes} {value : Value}
    (word : line.takeWhile (!Byte.isBlank ·) ≠ ascii "export") (separated : blanks ≠ [])
    (blank : ∀ byte ∈ blanks, Byte.isBlank byte = true)
    (start : (line.head?.all fun byte => !Byte.isSpace byte) = true)
    (read : ofTrimmed line = .assignment name value) :
    ofTrimmed (ascii "export" ++ (blanks ++ line)) = .assignment name value := by
  have ended : ((blanks ++ line).head?.all Byte.isBlank) = true := by
    obtain ⟨first, rest, rfl⟩ := List.exists_cons_of_ne_nil separated
    simpa using blank first List.mem_cons_self
  have spaces : ∀ byte ∈ blanks, Byte.isSpace byte = true :=
    fun byte member => Byte.isSpace_of_isBlank (blank byte member)
  have statement : ofTrimmed (ascii "export" ++ (blanks ++ line)) =
      ofStatement (dropExport (ascii "export" ++ (blanks ++ line))) := rfl
  rw [statement, dropExport_eq_iff.mpr (.exported ended),
    Bytes.trimLeft_append_of_isSpace spaces]
  have notComment := head?_ne_hash_of_assignment read
  cases line with
  | nil => cases read
  | cons first rest =>
      have visible : Byte.isSpace first = false := by simpa using start
      have notHash : first ≠ Byte.hash := by simpa using notComment
      rw [Bytes.trimLeft_cons, if_neg (by simp [visible])]
      rwa [ofTrimmed, if_neg notHash, dropExport, if_neg word] at read

theorem ofTrimmed_commented {line name comment : Bytes} {value : Value} {blank : UInt8}
    (separated : Byte.isBlank blank = true) (read : ofTrimmed line = .assignment name value) :
    ofTrimmed (line ++ blank :: Byte.hash :: comment) = .assignment name value := by
  obtain ⟨front, text, rfl, first⟩ := List.eq_append_cons_of_mem (equals_mem_of_assignment read)
  rw [List.append_assoc, List.cons_append]
  apply ofTrimmed_replace first read
  intro tail present ignorable
  refine ⟨tail ++ blank :: Byte.hash :: comment, ?_, ?_⟩
  · exact readValue_append present (by simpa using separated)
  · exact isIgnorable_append_comment ignorable separated comment

theorem ofTrimmed_quoted {front bare tail name : Bytes} {value : Value}
    (first : Byte.equals ∉ front)
    (unquoted : (bare.head?.all fun byte => !isQuote byte) = true)
    (unbroken : ∀ byte ∈ bare, Byte.isBlank byte = false)
    (ended : (tail.head?.all Byte.isBlank) = true) (closed : Byte.doubleQuote ∉ bare)
    (read : ofTrimmed (front ++ Byte.equals :: (bare ++ tail)) = .assignment name value) :
    ofTrimmed (front ++ Byte.equals :: Byte.doubleQuote :: (bare ++ Byte.doubleQuote :: tail)) =
      .assignment name value := by
  apply ofTrimmed_replace first read
  intro present readBare ignorable
  rw [readValue_bare_append unquoted unbroken ended] at readBare
  obtain ⟨rfl, rfl⟩ := Prod.mk.inj (Option.some.inj readBare)
  have quotes : isQuote Byte.doubleQuote = true := rfl
  exact ⟨tail, readValue_quoted quotes closed, ignorable⟩

theorem ofTrimmed_trim_of_rewritten {line statement name : Bytes} {value : Value}
    (rewritten : Rewritten line statement)
    (start : (line.head?.all fun byte => !Byte.isSpace byte) = true)
    (ended : (line.getLast?.all fun byte => !Byte.isSpace byte) = true)
    (read : ofTrimmed line = .assignment name value) :
    ofTrimmed (Bytes.trim statement) = .assignment name value := by
  have nonempty : line ≠ [] := by
    rintro rfl
    cases read
  -- Only a comment brings new whitespace to the end of the line.
  cases rewritten with
  | @exported _ blanks word separated blank =>
      have trimmed : Bytes.trim (ascii "export" ++ blanks ++ line) =
          ascii "export" ++ (blanks ++ line) := by
        rw [List.append_assoc]
        apply Bytes.trim_eq_self
        · rfl
        · rw [← List.append_assoc, List.getLast?_append_of_ne_nil _ nonempty]
          exact ended
      rw [trimmed]
      exact ofTrimmed_exported word separated blank start read
  | @commented _ comment blank separated oneLine =>
      obtain ⟨spaces, split, space⟩ := Bytes.trimRight_append comment
      have trimmed : Bytes.trim (line ++ blank :: Byte.hash :: comment) =
          line ++ blank :: Byte.hash :: Bytes.trimRight comment := by
        have whole : line ++ blank :: Byte.hash :: comment =
            [] ++ (line ++ blank :: Byte.hash :: Bytes.trimRight comment) ++ spaces := by
          simp [split]
        rw [whole, Bytes.trim_append_of_isSpace (by simp) space]
        apply Bytes.trim_eq_self
        · rwa [List.head?_append_of_ne_nil _ nonempty]
        · have last := Bytes.getLast?_trimRight comment
          cases kept : (Bytes.trimRight comment).getLast? with
          | none => simp [List.getLast?_append, List.getLast?_cons, kept]; decide
          | some byte => simpa [List.getLast?_append, List.getLast?_cons, kept] using last
      rw [trimmed]
      exact ofTrimmed_commented separated read
  | @quoted front bare tail first unquoted unbroken tailEnded closed =>
      rw [Bytes.trim_eq_self]
      · exact ofTrimmed_quoted first unquoted unbroken tailEnded closed read
      · simpa using start
      · cases last : tail.getLast? with
        | none => simp [List.getLast?_append, List.getLast?_cons, last]; decide
        | some byte => simpa [List.getLast?_append, List.getLast?_cons, last] using ended

theorem exists_of_effect_eq_set {values : Variables} {line : Line} {name text : Bytes}
    (effect : line.effect values = .set name text) : ∃ value, line = .assignment name value := by
  cases line with
  | assignment assigned value =>
      rw [Line.effect] at effect
      split at effect
      · cases effect
      · obtain ⟨rfl, _⟩ := Effect.set.inj effect
        exact ⟨value, rfl⟩
  | _ => cases effect

end Line

theorem Relaid.ofText {assigns : Prop} {line other : Bytes} (relaid : Relaid assigns line other)
    (assignment : assigns → ∃ name value, Line.ofText line = .assignment name value) :
    Line.ofText other = Line.ofText line := by
  cases relaid with
  | padded paddingBefore paddingAfter =>
      rw [Line.ofText, trim_of_padding paddingBefore paddingAfter, Line.ofText]
  | rewritten assigning paddingBefore paddingAfter rewritten =>
      obtain ⟨name, value, read⟩ := assignment assigning
      rw [Line.ofText, trim_of_padding paddingBefore paddingAfter, read]
      apply Line.ofTrimmed_trim_of_rewritten rewritten
      · exact Bytes.head?_trim line
      · exact Bytes.getLast?_trimRight (Bytes.trimLeft line)
      · exact read

theorem Rewritten.newline_notMem {line statement : Bytes} (rewritten : Rewritten line statement)
    (oneLine : Byte.newline ∉ line) : Byte.newline ∉ statement := by
  intro member
  cases rewritten with
  | exported word separated blank =>
      rcases List.mem_append.mp member with inFront | inLine
      · rcases List.mem_append.mp inFront with inWord | inBlanks
        · revert inWord
          decide
        · cases blank Byte.newline inBlanks
      · exact oneLine inLine
  | commented separated commentLine =>
      rcases List.mem_append.mp member with inLine | behind
      · exact oneLine inLine
      · rcases List.mem_cons.mp behind with rfl | inComment
        · cases separated
        · rcases List.mem_cons.mp inComment with hash | inText
          · cases hash
          · exact commentLine inText
  | quoted first bare unbroken ended unquoted =>
      have notQuote : Byte.newline ≠ Byte.doubleQuote := by decide
      simp only [List.mem_append, List.mem_cons, notQuote, false_or] at member
      simp only [List.mem_append, List.mem_cons] at oneLine
      exact oneLine member

theorem Relaid.newline_notMem {assigns : Prop} {line other : Bytes}
    (relaid : Relaid assigns line other) (oneLine : Byte.newline ∉ line) :
    Byte.newline ∉ other := by
  have padded {before after text : Bytes} (paddingBefore : Padding before)
      (paddingAfter : Padding after) (textLine : Byte.newline ∉ text) :
      Byte.newline ∉ before ++ text ++ after := by
    simp [newline_notMem_of_padding paddingBefore, newline_notMem_of_padding paddingAfter,
      textLine]
  cases relaid with
  | padded paddingBefore paddingAfter => exact padded paddingBefore paddingAfter oneLine
  | rewritten assigning paddingBefore paddingAfter rewritten =>
      apply padded paddingBefore paddingAfter
      apply rewritten.newline_notMem
      exact fun member => oneLine (Bytes.mem_of_mem_trim member)

theorem parseLines_congr_ofText {lines others : List Bytes}
    (same : lines.map Line.ofText = others.map Line.ofText) (environment : Variables)
    (number : Nat) (assignments : Assignments) :
    parseLines environment number assignments lines =
      parseLines environment number assignments others := by
  induction lines generalizing others number assignments with
  | nil =>
      obtain rfl : others = [] := by simpa using same.symm
      rfl
  | cons line rest ih =>
      obtain ⟨other, remaining, rfl, sameLine, sameRest⟩ := List.map_eq_cons_iff.mp same.symm
      rw [parseLines, parseLines, sameLine]
      simp only [ih sameRest.symm]

namespace Layout

variable {environment : Variables} {lines others : List Bytes}

theorem map_ofText (layout : Layout environment lines others) :
    others.map Line.ofText = lines.map Line.ofText := by
  apply List.ext_getElem?
  intro position
  rw [List.getElem?_map, List.getElem?_map]
  cases place : lines[position]? with
  | none =>
      have beyond : others[position]? = none := by
        rw [List.getElem?_eq_none_iff, layout.length]
        exact List.getElem?_eq_none_iff.mp place
      rw [beyond]
  | some line =>
      obtain ⟨within, _⟩ := List.getElem?_eq_some_iff.mp place
      obtain ⟨other, otherPlace⟩ : ∃ other, others[position]? = some other := by
        rw [← layout.length] at within
        exact ⟨others[position], List.getElem?_eq_getElem within⟩
      have relaid := layout.relaid position line other place otherPlace
      have sameLine : Line.ofText other = Line.ofText line := by
        apply relaid.ofText
        rintro ⟨name, value, present, assignments, presentPlace, _, effect⟩
        obtain rfl : line = present := Option.some.inj (place.symm.trans presentPlace)
        exact ⟨name, Line.exists_of_effect_eq_set effect⟩
      rw [otherPlace, Option.map_some, Option.map_some, sameLine]

theorem newline_notMem (layout : Layout environment lines others)
    (oneLine : ∀ line ∈ lines, Byte.newline ∉ line) : ∀ other ∈ others, Byte.newline ∉ other := by
  intro other member
  obtain ⟨position, within, rfl⟩ := List.mem_iff_getElem.mp member
  have inLines : position < lines.length := by rwa [← layout.length]
  have relaid := layout.relaid position lines[position] others[position]
    (List.getElem?_eq_getElem inLines) (List.getElem?_eq_getElem within)
  exact relaid.newline_notMem (oneLine _ (List.getElem_mem inLines))

end Layout

theorem forall₂_splitOn_withReturns (text : Bytes) :
    List.Forall₂ (fun line other => ∃ after, Padding after ∧ other = line ++ after)
      (Bytes.splitOn Byte.newline text) (Bytes.splitOn Byte.newline (withReturns text)) := by
  induction text with
  | nil => exact .cons ⟨[], by decide, rfl⟩ .nil
  | cons byte rest ih =>
      by_cases ends : byte = Byte.newline
      · have returned : withReturns (byte :: rest) = [13] ++ Byte.newline :: withReturns rest := by
          rw [withReturns, List.flatMap_cons, if_pos ends]
          rfl
        have first : Bytes.splitOn Byte.newline [13] = [[13]] := by decide
        rw [returned, Bytes.splitOn_append, first, Bytes.splitOn, if_pos ends]
        exact .cons ⟨[13], by decide, rfl⟩ ih
      · have kept : withReturns (byte :: rest) = byte :: withReturns rest := by
          rw [withReturns, List.flatMap_cons, if_neg ends]
          rfl
        rw [kept, Bytes.splitOn, Bytes.splitOn, if_neg ends, if_neg ends]
        -- The byte goes in front of the first line on both sides.
        generalize Bytes.splitOn Byte.newline rest = lines at *
        generalize Bytes.splitOn Byte.newline (withReturns rest) = others at *
        cases ih with
        | nil => exact .nil
        | cons first later =>
            obtain ⟨after, padding, rfl⟩ := first
            exact .cons ⟨after, padding, rfl⟩ later

theorem Layout.of_withReturns (environment : Variables) (contents : Bytes) :
    Layout environment (Bytes.splitOn Byte.newline contents)
      (Bytes.splitOn Byte.newline (withReturns contents)) := by
  have returned := forall₂_splitOn_withReturns contents
  refine ⟨returned.length_eq.symm, ?_⟩
  intro position line other place otherPlace
  obtain ⟨within, rfl⟩ := List.getElem?_eq_some_iff.mp place
  obtain ⟨otherWithin, rfl⟩ := List.getElem?_eq_some_iff.mp otherPlace
  obtain ⟨after, paddingAfter, padded⟩ := returned.get within otherWithin
  rw [List.get_eq_getElem, List.get_eq_getElem] at padded
  have paddingBefore : Padding [] := by decide
  rw [padded]
  exact .padded paddingBefore paddingAfter

/-- Another layout of a file gives the same assignments, error and notes; and so does a file in
which every line ends with a carriage return. -/
theorem parse_layout (environment : Variables) (contents : Bytes) :
    (∀ others, Layout environment (Bytes.splitOn Byte.newline contents) others →
      parse environment (Bytes.join Byte.newline others) = parse environment contents) ∧
    parse environment (withReturns contents) = parse environment contents := by
  have relaid : ∀ others, Layout environment (Bytes.splitOn Byte.newline contents) others →
      parse environment (Bytes.join Byte.newline others) = parse environment contents := by
    intro others layout
    have oneLine : ∀ other ∈ others, Byte.newline ∉ other :=
      layout.newline_notMem fun line => Bytes.notMem_of_mem_splitOn
    rw [parse_join environment oneLine, parse]
    exact parseLines_congr_ofText layout.map_ofText environment 1 {}
  refine ⟨relaid, ?_⟩
  have returned := relaid _ (.of_withReturns environment contents)
  rwa [Bytes.join_splitOn] at returned

/-- A file in which one line is exported, one padded and one quoted. -/
theorem parse_layout_mixed :
    Layout (fun _ => none) (Bytes.splitOn Byte.newline (ascii "a='b'\nc d\ne=$a"))
        [ascii "export \ta='b'", ascii "c d ", ascii "\te=\"$a\"\r"] ∧
      parse (fun _ => none) (ascii "export \ta='b'\nc d \n\te=\"$a\"\r") =
        parse (fun _ => none) (ascii "a='b'\nc d\ne=$a") := by
  have noPadding : Padding [] := by decide
  have layout : Layout (fun _ => none) (Bytes.splitOn Byte.newline (ascii "a='b'\nc d\ne=$a"))
      [ascii "export \ta='b'", ascii "c d ", ascii "\te=\"$a\"\r"] := by
    refine ⟨rfl, ?_⟩
    intro position line other place otherPlace
    match position with
    | 0 =>
        obtain rfl : ascii "a='b'" = line := Option.some.inj place
        obtain rfl : ascii "export \ta='b'" = other := Option.some.inj otherPlace
        have blank : ∀ byte ∈ ascii " \t", Byte.isBlank byte = true := List.all_eq_true.mp rfl
        have rewritten : Rewritten (Bytes.trim (ascii "a='b'")) (ascii "export \ta='b'") :=
          @Rewritten.exported (ascii "a='b'") (ascii " \t") (by decide) (by decide) blank
        refine .rewritten ⟨ascii "a", ascii "b", ?_⟩ noPadding noPadding rewritten
        exact ⟨ascii "a='b'", {}, rfl, rfl, rfl⟩
    | 1 =>
        obtain rfl : ascii "c d" = line := Option.some.inj place
        obtain rfl : ascii "c d " = other := Option.some.inj otherPlace
        have paddingAfter : Padding (ascii " ") := by decide
        exact .padded noPadding paddingAfter
    | 2 =>
        obtain rfl : ascii "e=$a" = line := Option.some.inj place
        obtain rfl : ascii "\te=\"$a\"\r" = other := Option.some.inj otherPlace
        have unbroken : ∀ byte ∈ ascii "$a", Byte.isBlank byte = false := by
          simp [ascii, Byte.isBlank]
        have rewritten : Rewritten (Bytes.trim (ascii "e=$a")) (ascii "e=\"$a\"") :=
          @Rewritten.quoted (ascii "e") (ascii "$a") [] (by decide) rfl unbroken rfl (by decide)
        have paddingBefore : Padding (ascii "\t") := by decide
        have paddingAfter : Padding (ascii "\r") := by decide
        refine .rewritten ⟨ascii "e", ascii "b", ?_⟩ paddingBefore paddingAfter rewritten
        exact ⟨ascii "e=$a", .ofPairs [(ascii "a", ascii "b")], rfl, rfl, by decide +kernel⟩
    | _ + 3 => cases place
  exact ⟨layout, (parse_layout _ _).1 _ layout⟩

end TradeLocal.Config
