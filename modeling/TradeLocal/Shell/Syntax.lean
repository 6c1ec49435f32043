import TradeLocal.Bytes

/-!
# Shell scripts

The scripts a host's shell runs: words with quoting and expansions, redirections, and the
commands built from them.
-/

namespace TradeLocal.Shell

/-- What a parameter expansion does with the parameter's value.  With `colon` an empty value
counts as unset. -/
inductive Form where
  | value
  /-- The value, with the word behind it as the end of the whole word. -/
  | valueAtEnd
  | length
  | default (colon : Bool)
  | alternative (colon : Bool)
  | require (colon : Bool)
  | assign (colon : Bool)
  /-- Remove the shortest or longest part at one end that matches a pattern. -/
  | trim (atEnd longest : Bool)
  /-- Something that has no meaning, which is noticed when it is expanded. -/
  | bad
  deriving DecidableEq, Repr

inductive Access where
  | input
  /-- Write from the start, but not to a file that the shell is told to keep. -/
  | output
  | overwrite
  | append
  | update
  deriving DecidableEq, Repr

mutual

inductive Piece where
  /-- A byte as it stands. -/
  | plain (byte : UInt8)
  /-- A byte that means only itself. -/
  | escaped (byte : UInt8)
  /-- A quote, which opens or closes a quotation. -/
  | mark
  | parameter (name : Bytes) (form : Form) (word : List Piece)
  | command (body : Command)
  | arithmetic (text : List Piece)

inductive Redirection where
  | file (descriptor : Nat) (access : Access) (path : List Piece)
  /-- To where another descriptor leads, or nowhere. -/
  | duplicate (descriptor : Nat) (source : List Piece)
  /-- To a text in the script, known by its number. -/
  | document (descriptor : Nat) (number : Nat)

/-- A command of a script, with the line on which it begins where that is mentioned in
errors. -/
inductive Command where
  /-- Nothing at all. -/
  | nothing
  | simple (line : Nat) (assignments words : List (List Piece)) (redirections : List Redirection)
  | pipeline (stages : List Command) (inBackground : Bool)
  | redirected (line : Nat) (body : Command) (redirections : List Redirection)
  | subshell (line : Nat) (body : Command) (redirections : List Redirection)
  | background (line : Nat) (body : Command) (redirections : List Redirection)
  | conjunction (left right : Command)
  | disjunction (left right : Command)
  | sequence (left right : Command)
  | negation (body : Command)
  | conditional (condition thenPart elsePart : Command)
  /-- Run the body while the condition's success is as wanted. -/
  | loop (wanted : Bool) (condition body : Command)
  | iteration (line : Nat) (name : Bytes) (items : List (List Piece)) (body : Command)
  | choice (line : Nat) (subject : List Piece) (branches : List (List (List Piece) × Command))
  | function (line : Nat) (name : Bytes) (body : Command)

end

abbrev Word := List Piece

def Command.isNothing : Command → Bool
  | nothing => true
  | _ => false

namespace Word

/-- The text of a word, or the start of it, that has neither quotes nor expansions. -/
def plainStart : Word → Bytes
  | .plain byte :: rest => byte :: plainStart rest
  | _ => []

def plain? (word : Word) : Option Bytes :=
  let text := plainStart word
  if text.length = word.length then some text else none

def bytes (word : Word) : Bytes :=
  word.filterMap fun piece =>
    match piece with
    | .plain byte | .escaped byte => some byte
    | _ => none

/-- Whether a word gives a variable a value: a name and an equals sign come first. -/
def isAssignment (word : Word) : Bool :=
  let text := plainStart word
  Bytes.isVariableName (text.takeWhile (· != Byte.equals)) && text.contains Byte.equals

def allArguments : Word :=
  [.mark, .parameter [Byte.atSign] .value [], .mark]

end Word

/-- A token of a script.  What is special about a word or a redirection is kept by the
reader. -/
inductive Token where
  | endOfFile
  | newline
  | operator (text : Bytes)
  | redirection
  | word
  | keyword (text : Bytes)
  deriving DecidableEq, Repr

namespace Token

def keywords : List Bytes :=
  ["!", "case", "do", "done", "elif", "else", "esac", "fi", "for", "if", "in", "then", "until",
    "while", "\x7b", "\x7d"].map ascii

def shown : Token → Bytes
  | endOfFile => ascii "end of file"
  | newline => ascii "newline"
  | redirection => ascii "redirection"
  | word => ascii "word"
  | operator text | keyword text => Byte.doubleQuote :: text ++ [Byte.doubleQuote]

def semicolon : Token := operator (ascii ";")
def background : Token := operator (ascii "&")
def conjunction : Token := operator (ascii "&&")
def disjunction : Token := operator (ascii "||")
def pipe : Token := operator (ascii "|")
def opening : Token := operator (ascii "(")
def closing : Token := operator (ascii ")")
def endOfBranch : Token := operator (ascii ";;")

def endsList (token : Token) : Bool :=
  token == endOfFile || token == closing || token == endOfBranch ||
    (["do", "done", "elif", "else", "esac", "fi", "then", "\x7d"].map
      fun text => keyword (ascii text)).contains token

end Token

inductive SyntaxError where
  | unterminatedQuote
  | missingBrace
  | missingParentheses
  | unterminatedSubstitution
  | badLoopVariable
  | badFunctionName
  | badDescriptor
  | unexpected (token : Token) (expecting : Option Token)
  | tooDeep
  deriving DecidableEq, Repr

def SyntaxError.text : SyntaxError → Bytes
  | unterminatedQuote => ascii "Syntax error: Unterminated quoted string"
  | missingBrace => ascii "Syntax error: Missing '\x7d'"
  | missingParentheses => ascii "Syntax error: Missing '))'"
  | unterminatedSubstitution => ascii "Syntax error: EOF in backquote substitution"
  | badLoopVariable => ascii "Syntax error: Bad for loop variable"
  | badFunctionName => ascii "Syntax error: Bad function name"
  | badDescriptor => ascii "Syntax error: Bad fd number"
  | tooDeep => ascii "Syntax error: nested too deeply"
  | unexpected token expecting =>
      ascii "Syntax error: " ++ token.shown ++ ascii " unexpected" ++
        match expecting with
        | none => []
        | some other => ascii " (expecting " ++ other.shown ++ ascii ")"

end TradeLocal.Shell
