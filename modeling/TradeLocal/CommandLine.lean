import TradeLocal.Failure

/-!
# The command line

The words the tool was started with, the program's own name first.  No word is read as an
option here.
-/

namespace TradeLocal

structure CommandLine where
  program : Bytes
  arguments : List Bytes
  deriving DecidableEq, Repr

namespace CommandLine

/-- An empty list of words stands for one empty program name. -/
def ofWords : List Bytes → CommandLine
  | [] => ⟨[], []⟩
  | program :: arguments => ⟨program, arguments⟩

/-- The command line of words passed by the system, each of which ends at its first NUL. -/
def ofSystem (words : List Bytes) : CommandLine :=
  ofWords (words.map Bytes.cutAtNul)

def words (line : CommandLine) : List Bytes :=
  line.program :: line.arguments

def size (line : CommandLine) : Nat :=
  line.arguments.length

def word? (line : CommandLine) (position : Nat) : Option Bytes :=
  line.words[position]?

def wordsFrom (line : CommandLine) (position : Nat) : List Bytes :=
  line.words.drop position

/-- The word at a position, or the failure that names what is missing there. -/
def word (line : CommandLine) (position : Nat) (name : Bytes) : Except Failure Bytes :=
  match line.word? position with
  | some word => .ok word
  | none =>
      .error ⟨.invalidArgument,
        ascii "Missing '" ++ name ++ ascii "' at position " ++ Bytes.ofNat position⟩

def usage (program : Bytes) : Bytes :=
  ascii "Usage: " ++ program ++ ascii " <place> <ly> ..."

@[simp]
theorem words_ofWords_cons (program : Bytes) (arguments : List Bytes) :
    (ofWords (program :: arguments)).words = program :: arguments := rfl

@[simp]
theorem words_ofWords_nil : (ofWords []).words = [[]] := rfl

theorem toOption_word (line : CommandLine) (position : Nat) (name : Bytes) :
    (line.word position name).toOption = line.words[position]? := by
  rw [word, word?]
  cases line.words[position]? with
  | none => rfl
  | some word => rfl

theorem word?_eq_head?_wordsFrom (line : CommandLine) (position : Nat) :
    line.word? position = (line.wordsFrom position).head? := by
  simp [word?, wordsFrom]

end CommandLine

end TradeLocal
