import Plotter.Drawing

namespace Plotter

structure Table where
  header : List Text
  rows : List (List Text)

namespace Table

def widths (t : Table) : List Nat :=
  t.rows.foldl (fun widths row => List.zipWith max widths (row.map List.length)) (t.header.map List.length)

def cell (width : Nat) (t : Text) : Text := ' ' :: t ++ List.replicate (width - t.length) ' ' ++ [' ']

def row (widths : List Nat) (cells : List Text) : Text := '│' :: Text.join '│' (List.zipWith cell widths cells) ++ ['│']

def border (left middle right : Char) (widths : List Nat) : Text :=
  left :: Text.join middle (widths.map fun width => List.replicate (width + 2) '─') ++ [right]

/-- The lines of the table; without rows it ends below the header. -/
def lines (t : Table) : List Text :=
  border '┌' '┬' '┐' t.widths :: row t.widths t.header :: border '├' '┼' '┤' t.widths ::
    if t.rows = [] then [] else t.rows.map (row t.widths) ++ [border '└' '┴' '┘' t.widths]

def text (t : Table) : Text := Text.join '\n' t.lines

end Table

namespace Operation

def filledText (op : Operation) : Text :=
  match op.filled? with
  | some true => "true".toList
  | some false => "false".toList
  | none => []

def cells (op : Operation) : List Text := [op.name, op.geometry, op.color.text, op.filledText]

end Operation

structure Listed where
  number : Nat
  operation : Operation
deriving DecidableEq

namespace Listed

def fromNumber (n : Nat) : List Operation → List Listed
  | [] => []
  | op :: ops => ⟨n, op⟩ :: fromNumber (n + 1) ops

def row (l : Listed) : List Text := Text.ofNat l.number :: l.operation.cells

def table (ls : List Listed) : Text :=
  Table.text ⟨["#".toList, "op".toList, "geometry".toList, "color".toList, "filled".toList], ls.map row⟩

end Listed

namespace Canvas

def listing (c : Canvas) : List Listed := Listed.fromNumber 1 c.operations

def listingAfter (c : Canvas) (n : Nat) : List Listed := Listed.fromNumber (n + 1) (c.operations.drop n)

end Canvas

namespace Drawing

def penTable (d : Drawing) : Text :=
  Table.text ⟨["position".toList, "color".toList, "fill".toList, "background".toList],
    [[d.pen.position.text, d.pen.color.text, Switch.text d.pen.fill, d.background.text]]⟩

def summaryTable (d : Drawing) (lines : Nat) : Text :=
  Table.text ⟨["lines".toList, "operations".toList],
    [[Text.ofNat lines, Text.ofNat d.canvas.operations.length]]⟩

end Drawing

end Plotter
