import TradeLocal.CommandLine

/-!
# Queries

A query asks for the stations within some light years of a place.  It is read from the
command line, whose first two arguments must be a place and a distance; all further
arguments are passed on untouched.
-/

namespace TradeLocal

structure Query where
  place : Bytes
  distance : Bytes
  extra : List Bytes
  deriving DecidableEq, Repr

/-- A word that a program would take for an option: it begins with a hyphen. -/
def isOptionLike (word : Bytes) : Bool :=
  word.head? == some Byte.hyphen

def isPositional (word : Bytes) : Bool :=
  !word.isEmpty && !isOptionLike word

theorem isPositional_iff {word : Bytes} :
    isPositional word = true ↔ word ≠ [] ∧ word.head? ≠ some Byte.hyphen := by
  simp [isPositional, isOptionLike]

namespace Query

def positional? (line : CommandLine) (position : Nat) (name : Bytes) : Option Bytes :=
  (line.word position name).toOption.filter isPositional

def ofCommandLine? (line : CommandLine) : Option Query :=
  (positional? line 1 (ascii "place")).bind fun place =>
    (positional? line 2 (ascii "ly")).map fun distance =>
      ⟨place, distance, line.wordsFrom 3⟩

/-- Whatever is wrong with the command line, the failure is the usage line. -/
def usageFailure (line : CommandLine) : Failure :=
  ⟨.invalidArgument, CommandLine.usage line.program⟩

def ofCommandLine (line : CommandLine) : Except Failure Query :=
  match ofCommandLine? line with
  | some query => .ok query
  | none => .error (usageFailure line)

theorem positional?_eq_some_iff {line : CommandLine} {position : Nat} {name word : Bytes} :
    positional? line position name = some word ↔
      line.words[position]? = some word ∧ isPositional word = true := by
  rw [positional?, Option.filter_eq_some_iff, CommandLine.toOption_word]

theorem ofCommandLine?_eq_some_iff {line : CommandLine} {query : Query} :
    ofCommandLine? line = some query ↔
      line.arguments = query.place :: query.distance :: query.extra ∧
        isPositional query.place = true ∧ isPositional query.distance = true := by
  rcases query with ⟨place, distance, extra⟩
  simp only [ofCommandLine?, Option.bind_eq_some_iff, Option.map_eq_some_iff,
    positional?_eq_some_iff, CommandLine.words, CommandLine.wordsFrom]
  constructor
  · rintro ⟨_, ⟨first, positionalPlace⟩, _, ⟨second, positionalDistance⟩, ⟨⟩⟩
    rcases given : line.arguments with _ | ⟨word, _ | ⟨next, rest⟩⟩
    · simp [given] at first
    · simp [given] at second
    · obtain rfl : word = place := by simpa [given] using first
      obtain rfl : next = distance := by simpa [given] using second
      exact ⟨rfl, positionalPlace, positionalDistance⟩
  · rintro ⟨given, positionalPlace, positionalDistance⟩
    rw [given]
    exact ⟨place, ⟨rfl, positionalPlace⟩, distance, ⟨rfl, positionalDistance⟩, rfl⟩

end Query

end TradeLocal
