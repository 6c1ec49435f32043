import TradeLocal.Config.Assignments
import TradeLocal.Config.Line
import TradeLocal.Expansion.Expand

/-!
# Configuration files

A file is read line by line.  An assignment sets a variable for the lines after it; a line
that cannot be used is skipped with a note; a quote that is not closed on its line makes
the whole file invalid, and nothing after it is looked at.
-/

namespace TradeLocal.Config

inductive Skip where
  | notAssignment
  | trailingText (name : Bytes)
  | unsupportedExpansion (name : Bytes)
  deriving DecidableEq, Repr

structure Note where
  line : Nat
  skip : Skip
  deriving DecidableEq, Repr

/-- The one error of a file: a quote that its line does not close. -/
structure Unterminated where
  line : Nat
  quote : UInt8
  name : Bytes
  deriving DecidableEq, Repr

/-- What reading a file gives: a note per skipped line, in order, and the assignments or
the error that ended the reading. -/
structure Parsed where
  notes : List Note
  result : Except Unterminated Assignments

inductive Effect where
  | nothing
  | skip (reason : Skip)
  | set (name value : Bytes)
  | fail (quote : UInt8) (name : Bytes)
  deriving DecidableEq, Repr

namespace Value

def expand (values : Variables) : Value → Option Bytes
  | literal text => some text
  | expandable text => Expansion.expand values text

end Value

namespace Line

def effect (values : Variables) : Line → Effect
  | blank => .nothing
  | foreign => .skip .notAssignment
  | unterminated quote name => .fail quote name
  | trailing name => .skip (.trailingText name)
  | assignment name value =>
      match value.expand values with
      | none => .skip (.unsupportedExpansion name)
      | some value => .set name value

end Line

def parseLines (environment : Variables) (number : Nat) (assignments : Assignments) :
    List Bytes → Parsed
  | [] => ⟨[], .ok assignments⟩
  | line :: rest =>
      match (Line.ofText line).effect (assignments.shadowing environment) with
      | .nothing => parseLines environment (number + 1) assignments rest
      | .set name value => parseLines environment (number + 1) (assignments.set name value) rest
      | .skip reason =>
          let parsed := parseLines environment (number + 1) assignments rest
          { parsed with notes := ⟨number, reason⟩ :: parsed.notes }
      | .fail quote name => ⟨[], .error ⟨number, quote, name⟩⟩

/-- Read the contents of a file.  Lines are numbered from 1. -/
def parse (environment : Variables) (contents : Bytes) : Parsed :=
  parseLines environment 1 {} (Bytes.splitOn Byte.newline contents)

def place (source : Bytes) (line : Nat) : Bytes :=
  source ++ ascii ":" ++ Bytes.ofNat line ++ ascii ": "

def Skip.text : Skip → Bytes
  | notAssignment => ascii "not an assignment, skipping"
  | trailingText name => ascii "unsupported trailing text after " ++ name ++ ascii ", skipping"
  | unsupportedExpansion name => ascii "unsupported expansion in " ++ name ++ ascii ", skipping"

def Note.text (source : Bytes) (note : Note) : Bytes :=
  place source note.line ++ note.skip.text

def Unterminated.text (source : Bytes) (error : Unterminated) : Bytes :=
  place source error.line ++ ascii "unterminated " ++ [error.quote] ++ ascii " in value of " ++
    error.name

end TradeLocal.Config
