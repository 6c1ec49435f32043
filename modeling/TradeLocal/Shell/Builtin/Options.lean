import TradeLocal.Numeral.Integer
import TradeLocal.Shell.State

/-!
# Options of builtins

Options are letters behind a hyphen, several in a word if so wanted.  A letter that takes an
argument takes the rest of its word, or the next word.  Two hyphens end the options.
-/

namespace TradeLocal.Shell.Script

open TradeLocal.Numeral

/-- Read options up to the first word that is none; `pending` are the letters left of a word.
A letter with a colon behind it takes an argument. -/
def readOptions (letters : Bytes) : Nat → List (UInt8 × Bytes) → Bytes → List Bytes →
    Script (List (UInt8 × Bytes) × List Bytes)
  | 0, read, _, words => return (read.reverse, words)
  | fuel + 1, read, letter :: more, words => do
      match letters.dropWhile (· != letter) with
      | [] => fail (ascii "Illegal option -" ++ [letter])
      | _ :: behind =>
          if behind.head? != some Byte.colon then
            readOptions letters fuel ((letter, []) :: read) more words
          else
            match more, words with
            | [], [] => fail (ascii "No arg for -" ++ letter :: ascii " option")
            | [], argument :: words =>
                readOptions letters fuel ((letter, argument) :: read) [] words
            | argument, words => readOptions letters fuel ((letter, argument) :: read) [] words
  | fuel + 1, read, [], words =>
      match words with
      | [Byte.hyphen, Byte.hyphen] :: rest => return (read.reverse, rest)
      | (Byte.hyphen :: letter :: more) :: rest =>
          readOptions letters fuel read (letter :: more) rest
      | _ => return (read.reverse, words)

def options (letters : String) (words : List Bytes) :
    Script (List (UInt8 × Bytes) × List Bytes) :=
  let letterCount := words.foldl (fun count word => count + word.length) 0
  readOptions (ascii letters) (letterCount + 1) [] [] words

def withoutOptions (words : List Bytes) : Script (List Bytes) :=
  return (← options "" words).2

def greatestArgument : Int := 2147483647

def number (word : Bytes) : Script Nat := do
  match integer? (some 10) word with
  | some value =>
      if value < 0 || greatestArgument < value then failNumber word else return value.toNat
  | none => failNumber word

end TradeLocal.Shell.Script
