import TradeLocal.Command
import TradeLocal.Settings

/-!
# Reading a query

A vector of words states a query exactly if a place and a distance follow its first word.  Every
other vector is refused with the same usage line, and what a command passes on are the words
behind the distance, all of them and in order.
-/

namespace TradeLocal

namespace CommandLine

variable {line : CommandLine} {position : Nat} {name : Bytes}

theorem words_ofWords (words : List Bytes) :
    (ofWords words).words = if words = [] then [[]] else words := by
  cases words with
  | nil => rfl
  | cons program arguments => simp

theorem word_eq_ok_iff {word : Bytes} :
    line.word position name = .ok word ↔ (line.wordsFrom position).head? = some word := by
  rw [← word?_eq_head?_wordsFrom]
  unfold CommandLine.word
  cases line.word? position with
  | none => simp
  | some present => simp

theorem word_eq_error_iff {failure : Failure} :
    line.word position name = .error failure ↔
      line.wordsFrom position = [] ∧
        failure = ⟨.invalidArgument,
          ascii "Missing '" ++ name ++ ascii "' at position " ++ Bytes.ofNat position⟩ := by
  rw [← List.head?_eq_none_iff, ← word?_eq_head?_wordsFrom]
  unfold CommandLine.word
  cases line.word? position with
  | none => simp [eq_comm]
  | some present => simp

end CommandLine

namespace Query

/-- The words of the vector are a name, the place, the distance and the extra words, and neither
the place nor the distance is empty or begins with a hyphen. -/
structure StatedBy (query : Query) (words : List Bytes) : Prop where
  form : ∃ program, words = program :: query.place :: query.distance :: query.extra
  place : query.place ≠ [] ∧ query.place.head? ≠ some Byte.hyphen
  distance : query.distance ≠ [] ∧ query.distance.head? ≠ some Byte.hyphen

variable {line : CommandLine} {query : Query} {failure : Failure}

theorem ofCommandLine_eq_ok_iff :
    ofCommandLine line = .ok query ↔ ofCommandLine? line = some query := by
  unfold ofCommandLine
  cases ofCommandLine? line with
  | none => simp
  | some read => simp

theorem ofCommandLine_eq_error_iff :
    ofCommandLine line = .error failure ↔
      (∀ query, ofCommandLine? line ≠ some query) ∧ failure = usageFailure line := by
  unfold ofCommandLine
  cases ofCommandLine? line with
  | none => simp [eq_comm]
  | some read => simp

theorem ofCommandLine?_ofWords_iff {words : List Bytes} :
    ofCommandLine? (CommandLine.ofWords words) = some query ↔ query.StatedBy words := by
  rw [ofCommandLine?_eq_some_iff, isPositional_iff, isPositional_iff]
  cases words with
  | nil =>
      constructor
      · rintro ⟨given, -, -⟩
        cases given
      · intro stated
        obtain ⟨program, given⟩ := stated.form
        cases given
  | cons program arguments =>
      constructor
      · rintro ⟨given, place, distance⟩
        exact ⟨⟨program, congrArg (program :: ·) given⟩, place, distance⟩
      · intro stated
        obtain ⟨_, given⟩ := stated.form
        exact ⟨(List.cons.inj given).2, stated.place, stated.distance⟩

theorem StatedBy.extra_eq_drop {words : List Bytes} (stated : query.StatedBy words) :
    query.extra = words.drop 3 := by
  obtain ⟨program, rfl⟩ := stated.form
  rfl

/-- A query is read from the vectors that state it and from no others, and its command ends in the
words of the vector from the third argument on.  All other vectors are refused alike.  The word at
a position is the first of those from there on, and missing if there are none. -/
theorem read_iff_stated (words : List Bytes) :
    let line := CommandLine.ofWords words
    let vector := if words = [] then [[]] else words
    (∀ query, ofCommandLine line = .ok query ↔ query.StatedBy words) ∧
    (∀ (query : Query) (settings : Settings), query.StatedBy words →
      Command.words ⟨settings.program, query⟩ =
        settings.program :: ascii "local" :: query.place :: ascii "--ly" :: query.distance ::
          words.drop 3) ∧
    (∀ failure, ofCommandLine line = .error failure ↔
      (∀ query : Query, ¬query.StatedBy words) ∧
        failure = ⟨.invalidArgument,
          ascii "Usage: " ++ vector.headD [] ++ ascii " <place> <ly> ..."⟩) ∧
    ∀ position name,
      line.wordsFrom position = vector.drop position ∧
      (∀ word, line.word position name = .ok word ↔
        (line.wordsFrom position).head? = some word) ∧
      ∀ failure, line.word position name = .error failure ↔
        line.wordsFrom position = [] ∧
          failure = ⟨.invalidArgument,
            ascii "Missing '" ++ name ++ ascii "' at position " ++ Bytes.ofNat position⟩ := by
  intro line vector
  have known : line.words = vector := CommandLine.words_ofWords words
  refine ⟨?_, ?_, ?_, ?_⟩
  · intro query
    rw [ofCommandLine_eq_ok_iff, ofCommandLine?_ofWords_iff]
  · intro query settings stated
    rw [← stated.extra_eq_drop]
    rfl
  · intro failure
    have refused : usageFailure line = ⟨.invalidArgument,
        ascii "Usage: " ++ vector.headD [] ++ ascii " <place> <ly> ..."⟩ := by
      rw [← known]
      rfl
    rw [ofCommandLine_eq_error_iff, refused]
    simp only [line, ne_eq, ofCommandLine?_ofWords_iff]
  · intro position name
    refine ⟨?_, ?_, ?_⟩
    · rw [← known]
      rfl
    · intro word
      exact CommandLine.word_eq_ok_iff
    · intro failure
      exact CommandLine.word_eq_error_iff

/-- Words behind the distance may be empty, look like options and occur twice. -/
theorem read_iff_stated_options :
    let words := [[], ascii "New Sol", ascii "1-0", ascii "--ly", [], ascii "-v", ascii "-v"]
    let query : Query := ⟨ascii "New Sol", ascii "1-0", [ascii "--ly", [], ascii "-v", ascii "-v"]⟩
    query.StatedBy words ∧ ofCommandLine (CommandLine.ofWords words) = .ok query ∧
      Command.words ⟨ascii "trade.py", query⟩ =
        [ascii "trade.py", ascii "local", ascii "New Sol", ascii "--ly", ascii "1-0",
          ascii "--ly", [], ascii "-v", ascii "-v"] := by
  intro words query
  have stated : query.StatedBy words := ⟨⟨[], rfl⟩, by decide, by decide⟩
  obtain ⟨accepted, command, -⟩ := read_iff_stated words
  exact ⟨stated, (accepted query).mpr stated,
    command query { program := ascii "trade.py" } stated⟩

end Query

end TradeLocal
