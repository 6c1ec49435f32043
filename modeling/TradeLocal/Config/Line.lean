import TradeLocal.Bytes

/-!
# Lines of a configuration file

A line is blank or a comment, an assignment to a variable, or something else.  What it is
depends on the line alone; only the value of an assignment may need variables, and is kept
as text here.
-/

namespace TradeLocal.Config

inductive Value where
  /-- Between single quotes: the bytes themselves. -/
  | literal (text : Bytes)
  /-- Bare or between double quotes: variables are expanded in it. -/
  | expandable (text : Bytes)
  deriving DecidableEq, Repr

inductive Line where
  /-- Nothing but whitespace, or a comment. -/
  | blank
  /-- No assignment to a valid name. -/
  | foreign
  /-- An assignment whose value opens a quote that the line does not close. -/
  | unterminated (quote : UInt8) (name : Bytes)
  /-- An assignment with text after the value that is no comment. -/
  | trailing (name : Bytes)
  | assignment (name : Bytes) (value : Value)
  deriving DecidableEq, Repr

namespace Line

def isQuote (byte : UInt8) : Bool :=
  byte == Byte.doubleQuote || byte == Byte.singleQuote

/-- The line without a leading word `export` and the whitespace after it. -/
def dropExport (line : Bytes) : Bytes :=
  if line.takeWhile (!Byte.isBlank ·) = ascii "export" then
    Bytes.trimLeft (line.dropWhile (!Byte.isBlank ·))
  else line

/-- Split the text after the equals sign into the value and what follows it.  There is no
value when a quote is opened and not closed.  A bare value ends at the first blank. -/
def readValue : Bytes → Option (Value × Bytes)
  | [] => some (.expandable [], [])
  | first :: rest =>
      if isQuote first then
        -- The next quote closes, also one with a backslash in front.
        match rest.dropWhile (· != first) with
        | [] => none
        | _ :: after =>
            let inside := rest.takeWhile (· != first)
            some (if first = Byte.singleQuote then .literal inside else .expandable inside, after)
      else
        some (.expandable ((first :: rest).takeWhile (!Byte.isBlank ·)),
          (first :: rest).dropWhile (!Byte.isBlank ·))

/-- After a value only blanks and a comment may follow. -/
def isIgnorable (tail : Bytes) : Bool :=
  match Bytes.trimLeft tail with
  | [] => true
  | first :: _ => first == Byte.hash

def ofAssignment (name text : Bytes) : Line :=
  match readValue text with
  | none => .unterminated (text.headD 0) name
  | some (value, tail) => if isIgnorable tail then .assignment name value else .trailing name

def ofStatement (statement : Bytes) : Line :=
  let name := statement.takeWhile (· != Byte.equals)
  match statement.dropWhile (· != Byte.equals) with
  | [] => .foreign
  | _ :: text => if Bytes.isVariableName name then ofAssignment name text else .foreign

def ofTrimmed : Bytes → Line
  | [] => .blank
  | first :: rest =>
      if first = Byte.hash then .blank else ofStatement (dropExport (first :: rest))

def ofText (line : Bytes) : Line :=
  ofTrimmed (Bytes.trim line)

end Line

end TradeLocal.Config
