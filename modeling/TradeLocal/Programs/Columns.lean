import TradeLocal.Bytes

/-!
# Columns

Texts that are written beside each other in lines of some width: in columns, or with commas
between them.
-/

namespace TradeLocal.Programs

structure Columns where
  /-- How wide lines may be, if that is limited. -/
  width? : Option Nat := some 80
  /-- How many columns a tab stands for; none if there are to be no tabs. -/
  tab : Nat := 8
  /-- What ends a line. -/
  ending : UInt8 := Byte.newline

namespace Columns

def leastWidth : Nat := 3

/-- The widths of so many columns, if they fit into a line.  The columns are filled one after the
other or together. -/
def widths? (areFilled : Bool) (width count : Nat) (texts : List Bytes) : Option (List Nat) :=
  let rows := (texts.length + count - 1) / count
  let placed := texts.zipIdx.map fun (text, index) =>
    let column := if areFilled then index / rows else index % count
    (column, text.length + (if column + 1 == count then 0 else 2))
  let widths := (List.range count).map fun column =>
    placed.foldl
      (fun width (place, length) => if place == column then max width length else width)
      leastWidth
  if widths.foldl (· + ·) 0 < width then some widths else none

def indent (columns : Columns) : Nat → Nat → Nat → Bytes
  | 0, _, _ => []
  | fuel + 1, start, finish =>
      if finish ≤ start then []
      else if columns.tab ≠ 0 && (start + 1) / columns.tab < finish / columns.tab then
        9 :: columns.indent fuel (start + columns.tab - start % columns.tab) finish
      else Byte.space :: columns.indent fuel (start + 1) finish

def line (columns : Columns) (cells : List (Bytes × Nat)) : Bytes :=
  (cells.foldl
    (fun (line, start, reached) (text, width) =>
      (line ++ columns.indent width reached start ++ text, start + width, start + text.length))
    (([] : Bytes), 0, 0)).1 ++ [columns.ending]

def table (columns : Columns) (areFilled : Bool) (texts : List Bytes) : Bytes :=
  match columns.width? with
  | none => List.intercalate (ascii "  ") texts ++ [columns.ending]
  | some width =>
      let most := max 1 (min texts.length (width / leastWidth + min 1 (width % leastWidth)))
      let fitting := (List.range most).reverse.findSome? fun count =>
        (widths? areFilled width (count + 1) texts).map (count + 1, ·)
      let (count, widths) := fitting.getD (1, [width])
      let rows := (texts.length + count - 1) / count
      (List.range rows).flatMap fun row =>
        columns.line ((List.range count).filterMap fun column =>
          let index := if areFilled then column * rows + row else row * count + column
          (texts[index]?).map (·, widths.getD column 0))

def commas (columns : Columns) (texts : List Bytes) : Bytes :=
  let joined := (texts.drop 1).foldl
    (fun (text, column) next =>
      if columns.width?.any (· ≤ column + 2 + next.length) then
        (text ++ (Byte.ofChar ',' :: columns.ending :: next), next.length)
      else (text ++ (Byte.ofChar ',' :: Byte.space :: next), column + 2 + next.length))
    (texts.headD [], (texts.headD []).length)
  joined.1 ++ [columns.ending]

/-- Rows of fields, of which all are as wide as the widest in their column, some of them with
the blanks in front. -/
def aligned (isRight : List Bool) (rows : List (List Bytes)) : List Bytes :=
  let widths := (List.range isRight.length).map fun column =>
    rows.foldl (fun width row => max width (row.getD column []).length) 0
  rows.map fun row =>
    Bytes.join Byte.space ((row.zip (widths.zip isRight)).map fun (field, width, isRight) =>
      let blanks := List.replicate (width - field.length) Byte.space
      if isRight then blanks ++ field else field ++ blanks)

end Columns

end TradeLocal.Programs
