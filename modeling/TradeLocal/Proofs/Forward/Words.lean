import Mathlib.Data.List.Forall2
import TradeLocal.Proofs.Forward.Outcome

/-!
# The words of an echoed command

In shell mode a command is run from its text, and a shell divides the text into words again.
When program and extra arguments need no quoting, and place and distance hold nothing that
keeps its meaning between double quotes, these are the words that direct mode passes on.
-/

namespace TradeLocal

namespace ShellLine

/-- Where the reader of a line is: outside quotes, with the word that has been begun if there is
one, or between double quotes. -/
inductive Place where
  | outside (word? : Option Bytes)
  | quoted (word : Bytes)

/-- The bytes that ask for other rules than those for blanks and double quotes: operators, other
ways of quoting, expansions, patterns, comments and assignments.  A line holds no NUL. -/
def others : Bytes :=
  ascii "|&;<>()$`\\'*?[]^!#~=%\x7b\x7d\n" ++ [0]

def quotedOthers : Bytes :=
  ascii "$`\\" ++ [0]

/-- The words of a line from some place on.  Blanks outside double quotes separate words, and the
quotes are removed.  There are no words if a quote is not closed or other rules are asked for. -/
def wordsFrom : Place → Bytes → Option (List Bytes)
  | .outside word?, [] => some word?.toList
  | .quoted _, [] => none
  | .outside word?, byte :: rest =>
      if Byte.isBlank byte then (wordsFrom (.outside none) rest).map (word?.toList ++ ·)
      else if byte = Byte.doubleQuote then wordsFrom (.quoted (word?.getD [])) rest
      else if byte ∈ others then none
      else wordsFrom (.outside (some (word?.getD [] ++ [byte]))) rest
  | .quoted word, byte :: rest =>
      if byte = Byte.doubleQuote then wordsFrom (.outside (some word)) rest
      else if byte ∈ quotedOthers then none
      else wordsFrom (.quoted (word ++ [byte])) rest

def words (line : Bytes) : Option (List Bytes) :=
  wordsFrom (.outside none) line

def isPlain (byte : UInt8) : Bool :=
  Byte.isLetter byte || Byte.isDigit byte || (ascii "_./,:+@-").contains byte

/-- A word that needs no quotes. -/
def Plain (word : Bytes) : Prop :=
  word ≠ [] ∧ ∀ byte ∈ word, isPlain byte = true

/-- A word that stands for itself between double quotes. -/
def Quotable (word : Bytes) : Prop :=
  Byte.doubleQuote ∉ word ∧ ∀ byte ∈ quotedOthers, byte ∉ word

instance (word : Bytes) : Decidable (Plain word) :=
  letI := List.decidableBAll (fun byte => isPlain byte = true) word
  inferInstanceAs (Decidable (word ≠ [] ∧ ∀ byte ∈ word, isPlain byte = true))

instance (word : Bytes) : Decidable (Quotable word) :=
  letI := List.decidableBAll (fun byte => byte ∉ word) quotedOthers
  inferInstanceAs (Decidable (Byte.doubleQuote ∉ word ∧ ∀ byte ∈ quotedOthers, byte ∉ word))

/-- How a word stands in a line. -/
inductive Spells : Bytes → Bytes → Prop where
  | plain {word : Bytes} (plain : Plain word) : Spells word word
  | quoted {word : Bytes} (quotable : Quotable word) : Spells (Command.quote word) word

variable {byte : UInt8} {text word spelling : Bytes}

theorem wordsFrom_plain_cons (plain : isPlain byte = true) (word? : Option Bytes) (rest : Bytes) :
    wordsFrom (.outside word?) (byte :: rest) =
      wordsFrom (.outside (some (word?.getD [] ++ [byte]))) rest := by
  have noneIsPlain : ([Byte.space, 9, Byte.doubleQuote] ++ others).all (!isPlain ·) = true := by
    decide
  have means : byte ∉ [Byte.space, 9, Byte.doubleQuote] ++ others := by
    intro member
    have notPlain := List.all_eq_true.mp noneIsPlain byte member
    simp [plain] at notPlain
  simp only [List.mem_append, List.mem_cons, List.not_mem_nil, or_false, not_or] at means
  obtain ⟨⟨notSpace, notTab, notQuote⟩, noOther⟩ := means
  have notBlank : Byte.isBlank byte = false := by simp [Byte.isBlank, notSpace, notTab]
  rw [wordsFrom, if_neg (by simp [notBlank]), if_neg notQuote, if_neg noOther]

theorem wordsFrom_plain_append (plain : ∀ byte ∈ text, isPlain byte = true) (word rest : Bytes) :
    wordsFrom (.outside (some word)) (text ++ rest) =
      wordsFrom (.outside (some (word ++ text))) rest := by
  induction text generalizing word with
  | nil => simp
  | cons byte text ih =>
      have later := ih (fun other member => plain other (by simp [member])) (word ++ [byte])
      rw [List.cons_append, wordsFrom_plain_cons (plain byte (by simp)), Option.getD_some, later,
        List.append_assoc, List.singleton_append]

theorem wordsFrom_quotable_append (quotable : Quotable text) (word rest : Bytes) :
    wordsFrom (.quoted word) (text ++ Byte.doubleQuote :: rest) =
      wordsFrom (.outside (some (word ++ text))) rest := by
  induction text generalizing word with
  | nil => simp [wordsFrom]
  | cons byte text ih =>
      obtain ⟨unquoted, noOther⟩ := quotable
      simp only [List.mem_cons, not_or] at unquoted noOther
      have textQuotable : Quotable text :=
        ⟨unquoted.2, fun other member => (noOther other member).2⟩
      have byteMeans : byte ∉ quotedOthers := fun member => (noOther byte member).1 rfl
      rw [List.cons_append, wordsFrom, if_neg (Ne.symm unquoted.1), if_neg byteMeans,
        ih textQuotable, List.append_assoc, List.singleton_append]

theorem wordsFrom_of_spells (spells : Spells spelling word) (rest : Bytes) :
    wordsFrom (.outside none) (spelling ++ rest) = wordsFrom (.outside (some word)) rest := by
  cases spells with
  | plain plain =>
      obtain ⟨nonempty, plain⟩ := plain
      obtain ⟨first, tail, rfl⟩ := List.exists_cons_of_ne_nil nonempty
      rw [List.cons_append, wordsFrom_plain_cons (plain first (by simp)),
        wordsFrom_plain_append fun other member => plain other (by simp [member])]
      rfl
  | quoted quotable =>
      have opened : wordsFrom (.outside none)
          (Byte.doubleQuote :: (word ++ Byte.doubleQuote :: rest)) =
            wordsFrom (.quoted []) (word ++ Byte.doubleQuote :: rest) := rfl
      have line : Command.quote word ++ rest =
          Byte.doubleQuote :: (word ++ Byte.doubleQuote :: rest) := by simp [Command.quote]
      rw [line, opened, wordsFrom_quotable_append quotable, List.nil_append]

theorem words_join {spellings meant : List Bytes} (spells : List.Forall₂ Spells spellings meant) :
    words (Bytes.join Byte.space spellings) = some meant := by
  induction spells with
  | nil => rfl
  | @cons spelling word spellings meant first rest ih =>
      cases rest with
      | nil =>
          have read := wordsFrom_of_spells first []
          rw [List.append_nil] at read
          rw [words, Bytes.join, List.intercalate_singleton, read]
          rfl
      | cons second rest =>
          have blank (line : Bytes) : wordsFrom (.outside (some word)) (Byte.space :: line) =
              (wordsFrom (.outside none) line).map (word :: ·) := rfl
          rw [words, Bytes.join] at ih
          rw [words, Bytes.join, List.intercalate_cons_cons, List.append_assoc,
            wordsFrom_of_spells first, List.singleton_append, blank, ih]
          rfl

end ShellLine

namespace Command

open ShellLine

theorem forall₂_spells {command : Command} (program : Plain command.program)
    (place : Quotable command.query.place) (distance : Quotable command.query.distance)
    (extra : ∀ word ∈ command.query.extra, Plain word) :
    List.Forall₂ Spells (command.fixedWords ++ command.query.extra) command.words := by
  have subcommandPlain : Plain subcommand := by decide
  have optionPlain : Plain distanceOption := by decide
  have extraSpells : List.Forall₂ Spells command.query.extra command.query.extra := by
    rw [List.forall₂_same]
    exact fun word member => .plain (extra word member)
  exact .cons (.plain program) (.cons (.plain subcommandPlain) (.cons (.quoted place)
    (.cons (.plain optionPlain) (.cons (.quoted distance) extraSpells))))

theorem words_render {command : Command} (program : Plain command.program)
    (place : Quotable command.query.place) (distance : Quotable command.query.distance)
    (extra : ∀ word ∈ command.query.extra, Plain word) :
    ShellLine.words command.render = some command.words :=
  words_join (forall₂_spells program place distance extra)

end Command

namespace Forward

open Event ShellLine

/-- In shell mode a shell is given the text that is echoed, and divided into words this text is
the argument vector of direct mode. -/
theorem words_of_shell (settings : Settings) (query : Query) (program : Plain settings.program)
    (place : Quotable query.place) (distance : Quotable query.distance)
    (extra : ∀ word ∈ query.extra, Plain word) :
    let command : Command := ⟨settings.program, query⟩
    let words := [settings.program, ascii "local", query.place, ascii "--ly", query.distance] ++
      query.extra
    launchWords .shell command = pure [ascii "/bin/sh", ascii "-c", command.render] ∧
    (∀ launcher,
      let run := runQuery { settings with mode := .shell } launcher query
      echoed run.events = ascii "$ " ++ command.render ++ [Byte.newline] ∧
        launches run.events = [[ascii "/bin/sh", ascii "-c", command.render]]) ∧
    launchWords .direct command = pure words ∧
    ShellLine.words command.render = some words := by
  intro command words
  refine ⟨rfl, ?_, rfl, command.words_render program place distance extra⟩
  intro launcher run
  let shell : Settings := { settings with mode := .shell }
  have meaningful : shell.mode = .direct ∨ shell.mode = .shell := .inr rfl
  obtain ⟨back, ⟨noEcho, _, noLaunch⟩, ran⟩ := runQuery_eq launcher query meaningful
  have events : run.events =
      [.echo (ascii "$ " ++ command.render ++ [Byte.newline]), .notice (.running .shell)] ++
        .launch [ascii "/bin/sh", ascii "-c", command.render] :: back := congrArg Run.events ran
  rw [events]
  constructor
  · simp [echoed, noEcho]
  · simp [launches, noLaunch]

/-- A place with blanks, a newline, single quotes and operators in it. -/
theorem words_of_shell_place :
    let settings : Settings := { baseDirectory := ascii ".", program := ascii "./trade.py" }
    let query : Query := ⟨ascii "New\tSol '*'\n;#", ascii "10", [ascii "--detail", ascii "a,b"]⟩
    Plain settings.program ∧ Quotable query.place ∧ Quotable query.distance ∧
      (∀ word ∈ query.extra, Plain word) ∧
      ShellLine.words (ascii "./trade.py local \"New\tSol '*'\n;#\" --ly \"10\" --detail a,b") =
        some [ascii "./trade.py", ascii "local", ascii "New\tSol '*'\n;#", ascii "--ly",
          ascii "10", ascii "--detail", ascii "a,b"] := by
  intro settings query
  have program : Plain settings.program := by decide
  have place : Quotable query.place := by decide
  have distance : Quotable query.distance := by decide
  have extra : ∀ word ∈ query.extra, Plain word := by decide
  refine ⟨program, place, distance, extra, ?_⟩
  exact (words_of_shell settings query program place distance extra).2.2.2

end Forward

end TradeLocal
