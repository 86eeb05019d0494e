import MonkeySyntax.Report.Ink
import MonkeySyntax.Source.Position
import MonkeySyntax.Text.Width

/-!
# A line of source with a range marked

The characters of a line become cells, each with its offset in bytes and its width in columns. The
cells that a marked range touches are painted, and carets stand under them.
-/

namespace MonkeySyntax

structure Cell where
  char : Char
  offset : Nat
  width : Nat
deriving DecidableEq, Repr

def tabStop : Nat := 4

/-- The width of `c` when it starts at `column`; a tab reaches to the next tab stop. -/
def widthAt (column : Nat) (c : Char) : Nat :=
  if c = '\t' then tabStop - column % tabStop else displayWidth c

def cells : (offset column : Nat) → List Char → List Cell
  | _, _, [] => []
  | offset, column, c :: cs =>
    ⟨c, offset, widthAt column c⟩ :: cells (offset + c.utf8Size) (column + widthAt column c) cs

/-- A range of byte offsets within a line. -/
structure Mark where
  start : Nat
  stop : Nat
deriving DecidableEq, Repr

namespace Mark

/-- The range from `start` to `stop`, widened to one byte if it is empty. -/
def ofRange (start stop : Nat) : Mark := ⟨start, max stop (start + 1)⟩

def covers (mark : Mark) (cell : Cell) : Bool :=
  max mark.start cell.offset < min mark.stop (cell.offset + cell.char.utf8Size)

end Mark

def repeated (c : Char) (count : Nat) : String := String.ofList (List.replicate count c)

/-- The change of paint between two cells. -/
def repaint : (before after : Bool) → List Ink
  | false, true => [.paint .mark]
  | true, false => [.reset]
  | _, _ => []

/-- The cells in order, each as `draw` shows it, with those covered painted. -/
def drawn (mark : Mark) (draw : Cell → String) : (painted : Bool) → List Cell → List Ink
  | painted, [] => repaint painted false
  | painted, cell :: rest =>
    repaint painted (mark.covers cell) ++
      .text (draw cell) :: drawn mark draw (mark.covers cell) rest

def Cell.source (cell : Cell) : String :=
  if cell.char = '\t' then repeated ' ' cell.width else cell.char.toString

/-- What stands under a cell: carets if it is covered, blanks up to the end of the mark. -/
def Cell.under (mark : Mark) (cell : Cell) : String :=
  if mark.covers cell then repeated '^' cell.width
  else if cell.offset < mark.stop then repeated ' ' cell.width
  else ""

def sourceInks (mark : Mark) (line : List Char) : List Ink :=
  drawn mark Cell.source false (cells 0 0 line)

/-- The line of carets; a cell after the last character takes marks at the end of the line. -/
def caretInks (mark : Mark) (line : List Char) : List Ink :=
  drawn mark (Cell.under mark) false
    (cells 0 0 line ++ [⟨'\x00', byteLength line, 1⟩])

end MonkeySyntax
