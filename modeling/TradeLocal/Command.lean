import TradeLocal.Query

/-!
# The command that is run

`<program> local <place> --ly <distance> <extra>...`, as a list of words for the system
and as one line of text for the user or for a shell.
-/

namespace TradeLocal

structure Command where
  program : Bytes
  query : Query
  deriving DecidableEq, Repr

namespace Command

def subcommand : Bytes := ascii "local"

def distanceOption : Bytes := ascii "--ly"

def words (command : Command) : List Bytes :=
  command.program :: subcommand :: command.query.place :: distanceOption ::
    command.query.distance :: command.query.extra

/-- Put double quotes around a word, changing nothing inside. -/
def quote (word : Bytes) : Bytes :=
  Byte.doubleQuote :: word ++ [Byte.doubleQuote]

def fixedWords (command : Command) : List Bytes :=
  [command.program, subcommand, quote command.query.place, distanceOption,
    quote command.query.distance]

/-- The command as one line: place and distance quoted, the extra words as they are. -/
def render (command : Command) : Bytes :=
  Bytes.join Byte.space (command.fixedWords ++ command.query.extra)

end Command

end TradeLocal
