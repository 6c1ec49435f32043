import TradeLocal.Command
import TradeLocal.Proofs.Bytes

/-!
# Echoed commands

The line that shows a command determines the words of the command.  Its four double quotes are
found from the start, since program, place and distance hold none.  Behind the last one every
extra word has a space in front, so no extra word and one empty extra word are shown differently.
-/

namespace TradeLocal

namespace Bytes

theorem parts_of_append_cons {separator : UInt8} {front other rest otherRest : Bytes}
    (absent : separator ∉ front) (otherAbsent : separator ∉ other)
    (same : front ++ separator :: rest = other ++ separator :: otherRest) :
    front = other ∧ rest = otherRest := by
  obtain ⟨taken, dropped⟩ := split_of_notMem absent rest
  obtain ⟨otherTaken, otherDropped⟩ := split_of_notMem otherAbsent otherRest
  rw [same] at taken dropped
  constructor
  · exact taken.symm.trans otherTaken
  · exact (List.cons.inj (dropped.symm.trans otherDropped)).2

theorem eq_of_join_cons_eq {separator : UInt8} {first other : Bytes} {pieces others : List Bytes}
    (free : ∀ piece ∈ first :: pieces, separator ∉ piece)
    (otherFree : ∀ piece ∈ other :: others, separator ∉ piece)
    (same : join separator (first :: pieces) = join separator (other :: others)) :
    first :: pieces = other :: others := by
  have split := splitOn_join free (List.cons_ne_nil first pieces)
  have otherSplit := splitOn_join otherFree (List.cons_ne_nil other others)
  rw [same] at split
  exact split.symm.trans otherSplit

end Bytes

namespace Command

/-- Program, place and distance hold no double quote, and the extra words no space. -/
structure Legible (command : Command) : Prop where
  program : Byte.doubleQuote ∉ command.program
  place : Byte.doubleQuote ∉ command.query.place
  distance : Byte.doubleQuote ∉ command.query.distance
  extra : ∀ word ∈ command.query.extra, Byte.space ∉ word

/-- The line of a command, divided at the four double quotes. -/
theorem render_eq (command : Command) :
    command.render =
      command.program ++ ascii " local " ++ Byte.doubleQuote ::
        (command.query.place ++ Byte.doubleQuote :: (ascii " --ly " ++ Byte.doubleQuote ::
          (command.query.distance ++ Byte.doubleQuote ::
            Bytes.join Byte.space ([] :: command.query.extra)))) := by
  have subcommandSpaced : ascii " local " = Byte.space :: subcommand ++ [Byte.space] := by decide
  have optionSpaced : ascii " --ly " = Byte.space :: distanceOption ++ [Byte.space] := by decide
  rw [render, fixedWords, subcommandSpaced, optionSpaced]
  cases command.query.extra with
  | nil => simp [Bytes.join, quote]
  | cons word extra => simp [Bytes.join, quote]

namespace Legible

theorem front {command : Command} (legible : command.Legible) :
    Byte.doubleQuote ∉ command.program ++ ascii " local " := by
  rw [List.mem_append, not_or]
  exact ⟨legible.program, by decide⟩

theorem pieces {command : Command} (legible : command.Legible) :
    ∀ piece ∈ [] :: command.query.extra, Byte.space ∉ piece := by
  intro piece member
  rcases List.mem_cons.mp member with rfl | member
  · simp
  · exact legible.extra piece member

theorem eq_of_render_eq {first second : Command} (firstLegible : first.Legible)
    (secondLegible : second.Legible) (same : first.render = second.render) : first = second := by
  have option : Byte.doubleQuote ∉ ascii " --ly " := by decide
  rw [render_eq, render_eq] at same
  obtain ⟨programSame, same⟩ :=
    Bytes.parts_of_append_cons firstLegible.front secondLegible.front same
  obtain ⟨placeSame, same⟩ :=
    Bytes.parts_of_append_cons firstLegible.place secondLegible.place same
  obtain ⟨_, same⟩ := Bytes.parts_of_append_cons option option same
  obtain ⟨distanceSame, same⟩ :=
    Bytes.parts_of_append_cons firstLegible.distance secondLegible.distance same
  have extraSame := Bytes.eq_of_join_cons_eq firstLegible.pieces secondLegible.pieces same
  rcases first with ⟨program, place, distance, extra⟩
  rcases second with ⟨otherProgram, otherPlace, otherDistance, otherExtra⟩
  obtain rfl : program = otherProgram := List.append_cancel_right programSame
  obtain rfl : place = otherPlace := placeSame
  obtain rfl : distance = otherDistance := distanceSame
  obtain rfl : extra = otherExtra := (List.cons.inj extraSame).2
  rfl

end Legible

theorem words_injective : Function.Injective words := by
  rintro ⟨program, place, distance, extra⟩ ⟨otherProgram, otherPlace, otherDistance, otherExtra⟩
    same
  simpa [words] using same

theorem nodup_render_empty (command : Command) :
    ([[], [[]], [[], []]].map fun extra =>
      render { command with query := { command.query with extra } }).Nodup := by
  simp only [List.map_cons, List.map_nil, render_eq]
  simp [Bytes.join]

/-- Commands without double quotes in program, place and distance, and without spaces in their
extra words, are shown alike only if they have the same words. -/
theorem render_eq_iff {first second : Command} (firstLegible : first.Legible)
    (secondLegible : second.Legible) :
    (first.render = second.render ↔ first.words = second.words) ∧
      ([[], [[]], [[], []]].map fun extra =>
        render { first with query := { first.query with extra } }).Nodup := by
  refine ⟨⟨?_, ?_⟩, first.nodup_render_empty⟩
  · intro same
    rw [firstLegible.eq_of_render_eq secondLegible same]
  · intro same
    rw [words_injective same]

/-- Extra words with double quotes in them, and one or two empty ones at the end. -/
theorem render_ne_of_empty :
    let first : Command :=
      ⟨ascii "a b", ascii "New Sol", ascii "10", [ascii "\"--ly\"", []]⟩
    let second : Command :=
      ⟨ascii "a b", ascii "New Sol", ascii "10", [ascii "\"--ly\"", [], []]⟩
    first.Legible ∧ second.Legible ∧ first.render ≠ second.render := by
  intro first second
  have firstLegible : first.Legible := ⟨by decide, by decide, by decide, by decide⟩
  have secondLegible : second.Legible := ⟨by decide, by decide, by decide, by decide⟩
  refine ⟨firstLegible, secondLegible, ?_⟩
  intro same
  have words := (render_eq_iff firstLegible secondLegible).1.mp same
  revert words
  decide

end Command

end TradeLocal
