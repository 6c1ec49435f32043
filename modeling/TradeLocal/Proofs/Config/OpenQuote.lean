import TradeLocal.Proofs.Bytes
import TradeLocal.Settings

/-!
# Open quotes

A file is invalid exactly when one of its lines opens a quote and does not close it, and the
error is about the first such line.  Which lines these are can be read off the text: neither
the environment nor what earlier lines assign has a part in it.
-/

namespace TradeLocal.Config

namespace Line

/-- `statement` is what is left of `line` without a leading word `export` and the whitespace
after it.  The word ends at a blank or with the line. -/
inductive WithoutExport : Bytes → Bytes → Prop where
  | exported {rest : Bytes} (ended : (rest.head?.all Byte.isBlank) = true) :
      WithoutExport (ascii "export" ++ rest) (Bytes.trimLeft rest)
  | plain {line : Bytes}
      (other : ∀ rest, line = ascii "export" ++ rest → (rest.head?.all Byte.isBlank) = false) :
      WithoutExport line line

/-- The line gives `name` a value that begins with a quote which the rest of the line does not
hold again.  A valid name has no equals sign in it, so `name` is all that stands before the
first one. -/
structure LeavesOpen (line : Bytes) (quote : UInt8) (name : Bytes) : Prop where
  notBlank : Bytes.trim line ≠ []
  notComment : (Bytes.trim line).head? ≠ some Byte.hash
  named : Bytes.isVariableName name = true
  quotes : quote = Byte.doubleQuote ∨ quote = Byte.singleQuote
  opens : ∃ rest, WithoutExport (Bytes.trim line) (name ++ Byte.equals :: quote :: rest) ∧
    quote ∉ rest

theorem word_eq_export_iff {line rest : Bytes} :
    line.takeWhile (!Byte.isBlank ·) = ascii "export" ∧
        line.dropWhile (!Byte.isBlank ·) = rest ↔
      line = ascii "export" ++ rest ∧ (rest.head?.all Byte.isBlank) = true := by
  have word : ∀ byte ∈ ascii "export", (!Byte.isBlank byte) = true := by decide +kernel
  rw [Bytes.split_iff]
  simp only [Bool.not_not, and_iff_right word]

theorem dropExport_eq_iff {line statement : Bytes} :
    dropExport line = statement ↔ WithoutExport line statement := by
  constructor
  · rintro rfl
    rw [dropExport]
    split
    · next word =>
        obtain ⟨split, ended⟩ := word_eq_export_iff.mp ⟨word, rfl⟩
        have exported := WithoutExport.exported ended
        rwa [← split] at exported
    · next other =>
        apply WithoutExport.plain
        rintro rest rfl
        by_contra ended
        exact other (word_eq_export_iff.mpr ⟨rfl, by simpa using ended⟩).1
  · intro removed
    cases removed with
    | @exported rest ended =>
        obtain ⟨word, after⟩ := word_eq_export_iff.mpr ⟨rfl, ended⟩
        rw [dropExport, if_pos word, after]
    | plain other =>
        rw [dropExport, if_neg]
        intro word
        obtain ⟨split, ended⟩ := word_eq_export_iff.mp ⟨word, rfl⟩
        simp [other _ split] at ended

theorem isQuote_iff (byte : UInt8) :
    isQuote byte = true ↔ byte = Byte.doubleQuote ∨ byte = Byte.singleQuote := by
  simp [isQuote]

theorem readValue_cons_eq_none_iff {first : UInt8} {rest : Bytes} :
    readValue (first :: rest) = none ↔ isQuote first = true ∧ first ∉ rest := by
  rw [readValue]
  split
  · next quoted =>
      have unclosed : rest.dropWhile (· != first) = [] ↔ first ∉ rest := by
        rw [List.dropWhile_eq_nil_iff]
        grind
      rw [← unclosed, and_iff_right quoted]
      cases rest.dropWhile (· != first) <;> simp
  · next bare => simp [bare]

theorem readValue_eq_none_iff {text : Bytes} :
    readValue text = none ↔
      ∃ quote rest, text = quote :: rest ∧ isQuote quote = true ∧ quote ∉ rest := by
  constructor
  · intro unread
    cases text with
    | nil => cases unread
    | cons quote rest => exact ⟨quote, rest, rfl, readValue_cons_eq_none_iff.mp unread⟩
  · rintro ⟨quote, rest, rfl, opened⟩
    exact readValue_cons_eq_none_iff.mpr opened

theorem ofAssignment_eq_unterminated_iff {name text other : Bytes} {quote : UInt8} :
    ofAssignment name text = .unterminated quote other ↔
      name = other ∧ ∃ rest, text = quote :: rest ∧ isQuote quote = true ∧ quote ∉ rest := by
  rw [ofAssignment]
  cases value : readValue text with
  | none =>
      obtain ⟨first, rest, rfl, quoted, unclosed⟩ := readValue_eq_none_iff.mp value
      simp only [List.headD_cons, unterminated.injEq, List.cons.injEq]
      grind
  | some found =>
      have closed : ¬∃ rest, text = quote :: rest ∧ isQuote quote = true ∧ quote ∉ rest := by
        rintro ⟨rest, opened⟩
        rw [readValue_eq_none_iff.mpr ⟨quote, rest, opened⟩] at value
        cases value
      simp only [closed, and_false, iff_false]
      split <;> simp

theorem ofStatement_of_name {name : Bytes} (valid : Bytes.isVariableName name = true)
    (text : Bytes) : ofStatement (name ++ Byte.equals :: text) = ofAssignment name text := by
  have noEquals : Byte.equals ∉ name := Bytes.notMem_of_isVariableName valid (by decide)
  obtain ⟨taken, dropped⟩ := Bytes.split_of_notMem noEquals text
  rw [ofStatement, dropped, taken]
  simp only [valid, if_true]

theorem ofStatement_eq_unterminated_iff {statement name : Bytes} {quote : UInt8} :
    ofStatement statement = .unterminated quote name ↔
      Bytes.isVariableName name = true ∧ isQuote quote = true ∧
        ∃ rest, statement = name ++ Byte.equals :: quote :: rest ∧ quote ∉ rest := by
  constructor
  · intro read
    rw [ofStatement] at read
    split at read
    · cases read
    · next equals text split =>
        obtain ⟨whole, _, ended⟩ := Bytes.split_iff.mp ⟨rfl, split⟩
        obtain rfl : equals = Byte.equals := by simpa using ended
        split at read
        · next valid =>
            obtain ⟨same, rest, rfl, quoted, unclosed⟩ := ofAssignment_eq_unterminated_iff.mp read
            rw [same] at whole valid
            exact ⟨valid, quoted, rest, whole, unclosed⟩
        · cases read
  · rintro ⟨valid, quoted, rest, rfl, unclosed⟩
    rw [ofStatement_of_name valid]
    exact ofAssignment_eq_unterminated_iff.mpr ⟨rfl, rest, rfl, quoted, unclosed⟩

theorem ofText_eq_unterminated_iff {line name : Bytes} {quote : UInt8} :
    ofText line = .unterminated quote name ↔ LeavesOpen line quote name := by
  have trimmed : ofText line = .unterminated quote name ↔
      Bytes.trim line ≠ [] ∧ (Bytes.trim line).head? ≠ some Byte.hash ∧
        ofStatement (dropExport (Bytes.trim line)) = .unterminated quote name := by
    rw [ofText]
    cases Bytes.trim line with
    | nil => simp [ofTrimmed]
    | cons first rest => by_cases comment : first = Byte.hash <;> simp [ofTrimmed, comment]
  rw [trimmed, ofStatement_eq_unterminated_iff, isQuote_iff]
  constructor
  · rintro ⟨notBlank, notComment, named, quotes, rest, statement, unclosed⟩
    exact ⟨notBlank, notComment, named, quotes, rest, dropExport_eq_iff.mp statement, unclosed⟩
  · rintro ⟨notBlank, notComment, named, quotes, rest, statement, unclosed⟩
    exact ⟨notBlank, notComment, named, quotes, rest, dropExport_eq_iff.mpr statement, unclosed⟩

/-- The values of variables do not decide whether a line fails. -/
theorem effect_eq_fail_iff {values : Variables} {line name : Bytes} {quote : UInt8} :
    (ofText line).effect values = .fail quote name ↔ LeavesOpen line quote name := by
  rw [← ofText_eq_unterminated_iff]
  cases ofText line with
  | assignment assigned value =>
      rw [effect]
      cases value.expand values <;> simp
  | _ => simp [effect]

end Line

/-- The line leaves no quote open. -/
def Closed (line : Bytes) : Prop :=
  ¬∃ quote name, Line.LeavesOpen line quote name

theorem closed_iff {line : Bytes} :
    Closed line ↔ ∀ quote name, Line.ofText line ≠ .unterminated quote name := by
  simp only [Closed, not_exists, ne_eq, Line.ofText_eq_unterminated_iff]

instance (line : Bytes) : Decidable (Closed line) :=
  match read : Line.ofText line with
  | .unterminated quote name => isFalse fun closed => closed_iff.mp closed quote name read
  | .blank | .foreign | .trailing _ | .assignment _ _ =>
      isTrue (closed_iff.mpr fun _ _ => read ▸ nofun)

theorem result_parseLines_of_closed {line : Bytes} (closed : Closed line)
    (environment : Variables) (number : Nat) (assignments : Assignments) (rest : List Bytes) :
    ∃ later, (parseLines environment number assignments (line :: rest)).result =
      (parseLines environment (number + 1) later rest).result := by
  rw [parseLines]
  cases done : (Line.ofText line).effect (assignments.shadowing environment) with
  | nothing => exact ⟨assignments, rfl⟩
  | skip reason => exact ⟨assignments, rfl⟩
  | set name value => exact ⟨assignments.set name value, rfl⟩
  | fail quote name => exact absurd ⟨quote, name, Line.effect_eq_fail_iff.mp done⟩ closed

/-- The line behind `position` others is the first that leaves a quote open. -/
def FirstOpen (lines : List Bytes) (position : Nat) (quote : UInt8) (name : Bytes) : Prop :=
  ∃ before line after, lines = before ++ line :: after ∧
    (∀ earlier ∈ before, Closed earlier) ∧ Line.LeavesOpen line quote name ∧
    position = before.length

theorem firstOpen_cons_of_open {line : Bytes} {quote : UInt8} {name : Bytes}
    (opens : Line.LeavesOpen line quote name) {rest : List Bytes} {position : Nat}
    {otherQuote : UInt8} {otherName : Bytes} :
    FirstOpen (line :: rest) position otherQuote otherName ↔
      position = 0 ∧ quote = otherQuote ∧ name = otherName := by
  constructor
  · rintro ⟨before, bad, after, split, closed, badOpens, rfl⟩
    cases before with
    | nil =>
        obtain ⟨rfl, rfl⟩ := List.cons.inj split
        have same := (Line.ofText_eq_unterminated_iff.mpr opens).symm.trans
          (Line.ofText_eq_unterminated_iff.mpr badOpens)
        exact ⟨rfl, Line.unterminated.inj same⟩
    | cons first before =>
        obtain ⟨rfl, rfl⟩ := List.cons.inj split
        exact absurd ⟨quote, name, opens⟩ (closed line (by simp))
  · rintro ⟨rfl, rfl, rfl⟩
    exact ⟨[], line, rest, rfl, by simp, opens, rfl⟩

theorem firstOpen_cons_of_closed {line : Bytes} (closed : Closed line) {rest : List Bytes}
    {position : Nat} {quote : UInt8} {name : Bytes} :
    FirstOpen (line :: rest) position quote name ↔
      ∃ behind, position = behind + 1 ∧ FirstOpen rest behind quote name := by
  constructor
  · rintro ⟨before, bad, after, split, earlierClosed, opens, rfl⟩
    cases before with
    | nil =>
        obtain ⟨rfl, rfl⟩ := List.cons.inj split
        exact absurd ⟨quote, name, opens⟩ closed
    | cons first before =>
        obtain ⟨rfl, rfl⟩ := List.cons.inj split
        refine ⟨before.length, rfl, before, bad, after, rfl, ?_, opens, rfl⟩
        exact fun earlier member => earlierClosed earlier (by simp [member])
  · rintro ⟨_, rfl, before, bad, after, rfl, earlierClosed, opens, rfl⟩
    refine ⟨line :: before, bad, after, rfl, ?_, opens, rfl⟩
    simpa [closed] using earlierClosed

theorem exists_firstOpen {lines : List Bytes} (opened : ∃ line ∈ lines, ¬Closed line) :
    ∃ position quote name, FirstOpen lines position quote name := by
  induction lines with
  | nil => simp at opened
  | cons line rest ih =>
      by_cases closed : Closed line
      · have later : ∃ other ∈ rest, ¬Closed other := by simpa [closed] using opened
        obtain ⟨position, quote, name, first⟩ := ih later
        exact ⟨position + 1, quote, name,
          (firstOpen_cons_of_closed closed).mpr ⟨position, rfl, first⟩⟩
      · obtain ⟨quote, name, opens⟩ := not_not.mp closed
        exact ⟨0, quote, name, (firstOpen_cons_of_open opens).mpr ⟨rfl, rfl, rfl⟩⟩

theorem parseLines_eq_error_iff {environment : Variables} {number : Nat}
    {assignments : Assignments} {lines : List Bytes} {error : Unterminated} :
    (parseLines environment number assignments lines).result = .error error ↔
      ∃ position, error.line = number + position ∧
        FirstOpen lines position error.quote error.name := by
  induction lines generalizing number assignments with
  | nil => simp [parseLines, FirstOpen]
  | cons line rest ih =>
      by_cases closed : Closed line
      · obtain ⟨later, result⟩ :=
          result_parseLines_of_closed closed environment number assignments rest
        rw [result, ih]
        simp only [firstOpen_cons_of_closed closed]
        constructor
        · rintro ⟨behind, numbered, first⟩
          exact ⟨behind + 1, by omega, behind, rfl, first⟩
        · rintro ⟨_, numbered, behind, rfl, first⟩
          exact ⟨behind, by omega, first⟩
      · obtain ⟨quote, name, opens⟩ := not_not.mp closed
        rw [parseLines, Line.effect_eq_fail_iff.mpr opens]
        simp only [firstOpen_cons_of_open opens]
        constructor
        · rintro ⟨⟩
          exact ⟨0, rfl, rfl, rfl, rfl⟩
        · rintro ⟨_, numbered, rfl, rfl, rfl⟩
          obtain rfl : error.line = number := numbered
          rfl

/-- What is reported of a parse of the source: its assignments or a failure. -/
def Parsed.report (source : Bytes) (parsed : Parsed) : Except Failure Assignments :=
  parsed.result.mapError fun error => (LoadError.invalid source error).failure

def openQuoteFailure (source : Bytes) (number : Nat) (quote : UInt8) (name : Bytes) : Failure :=
  ⟨.failedPrecondition, source ++ ascii ":" ++ Bytes.ofNat number ++ ascii ": unterminated " ++
    [quote] ++ ascii " in value of " ++ name⟩

theorem failure_invalid (source : Bytes) (error : Unterminated) :
    (LoadError.invalid source error).failure =
      openQuoteFailure source error.line error.quote error.name := by
  simp [LoadError.failure, Unterminated.text, place, openQuoteFailure, ascii]

theorem report_eq_error_iff {source contents : Bytes} {environment : Variables}
    {failure : Failure} :
    (parse environment contents).report source = .error failure ↔
      ∃ position quote name, FirstOpen (Bytes.splitOn Byte.newline contents) position quote name ∧
        failure = openQuoteFailure source (position + 1) quote name := by
  have reported : (parse environment contents).report source = .error failure ↔
      ∃ error, (parse environment contents).result = .error error ∧
        failure = openQuoteFailure source error.line error.quote error.name := by
    rw [Parsed.report]
    cases (parse environment contents).result with
    | ok assignments => simp [Except.mapError]
    | error error => simp [Except.mapError, failure_invalid, eq_comm]
  rw [reported]
  constructor
  · rintro ⟨error, result, rfl⟩
    obtain ⟨position, numbered, first⟩ := parseLines_eq_error_iff.mp result
    refine ⟨position, error.quote, error.name, first, ?_⟩
    rw [numbered, Nat.add_comm]
  · rintro ⟨position, quote, name, first, rfl⟩
    refine ⟨⟨1 + position, quote, name⟩, ?_, by rw [Nat.add_comm]⟩
    exact parseLines_eq_error_iff.mpr ⟨position, rfl, first⟩

/-- A parse fails exactly when some line leaves a quote open; the failure is about the first
such line; and environments have no part in it. -/
theorem report_error (source contents : Bytes) :
    (∀ environment, (∃ failure, (parse environment contents).report source = .error failure) ↔
      ∃ line ∈ Bytes.splitOn Byte.newline contents, ∃ quote name,
        Line.LeavesOpen line quote name) ∧
    (∀ environment failure, (parse environment contents).report source = .error failure ↔
      ∃ before line after quote name,
        Bytes.splitOn Byte.newline contents = before ++ line :: after ∧
        (∀ earlier ∈ before, ¬∃ quote name, Line.LeavesOpen earlier quote name) ∧
        Line.LeavesOpen line quote name ∧
        failure = ⟨.failedPrecondition,
          source ++ ascii ":" ++ Bytes.ofNat (before.length + 1) ++ ascii ": unterminated " ++
            [quote] ++ ascii " in value of " ++ name⟩) ∧
    ∀ first second,
      (∃ failure, (parse first contents).report source = .error failure ∧
        (parse second contents).report source = .error failure) ∨
      (∃ firstSets secondSets, (parse first contents).report source = .ok firstSets ∧
        (parse second contents).report source = .ok secondSets) := by
  refine ⟨?_, ?_, ?_⟩
  · intro environment
    constructor
    · rintro ⟨failure, reported⟩
      obtain ⟨_, quote, name, ⟨before, line, after, split, _, opens, _⟩, _⟩ :=
        report_eq_error_iff.mp reported
      exact ⟨line, by simp [split], quote, name, opens⟩
    · rintro ⟨line, member, opens⟩
      obtain ⟨position, quote, name, first⟩ := exists_firstOpen ⟨line, member, not_not.mpr opens⟩
      exact ⟨_, report_eq_error_iff.mpr ⟨position, quote, name, first, rfl⟩⟩
  · intro environment failure
    rw [report_eq_error_iff]
    constructor
    · rintro ⟨_, quote, name, ⟨before, line, after, split, closed, opens, rfl⟩, rfl⟩
      exact ⟨before, line, after, quote, name, split, closed, opens, rfl⟩
    · rintro ⟨before, line, after, quote, name, split, closed, opens, rfl⟩
      exact ⟨_, quote, name, ⟨before, line, after, split, closed, opens, rfl⟩, rfl⟩
  · intro first second
    cases firstReport : (parse first contents).report source with
    | error failure =>
        have firstOpen := report_eq_error_iff.mp firstReport
        exact .inl ⟨failure, rfl, report_eq_error_iff.mpr firstOpen⟩
    | ok firstSets =>
        cases secondReport : (parse second contents).report source with
        | error failure =>
            have secondOpen := report_eq_error_iff.mp secondReport
            rw [report_eq_error_iff.mpr secondOpen] at firstReport
            cases firstReport
        | ok secondSets => exact .inr ⟨firstSets, secondSets, rfl, rfl⟩

end TradeLocal.Config
