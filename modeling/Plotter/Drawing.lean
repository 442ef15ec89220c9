import Plotter.Drawing.Pen
import Plotter.Drawing.Sheet

namespace Plotter

structure Canvas where
  operations : List Operation
  sheet : Sheet
deriving DecidableEq

namespace Canvas

def blank (size : Size) (background : Color) : Canvas := ⟨[], .blank size background⟩

def apply (c : Canvas) (op : Operation) : Canvas := ⟨c.operations ++ [op], c.sheet.apply op⟩

end Canvas

structure Drawing where
  pen : Pen
  background : Color
  canvas : Canvas
  log : List Text
deriving DecidableEq

namespace Drawing

def blank (size : Size) (background : Color) : Drawing := ⟨.initial, background, .blank size background, []⟩

def logLine (notice : Text) : Text := "--> ".toList ++ notice

def execute (d : Drawing) (c : Command) : Drawing :=
  { d with
    pen := d.pen.after c
    canvas := (c.operation? d.pen d.background).elim d.canvas d.canvas.apply
    log := d.log ++ c.notices.map logLine }

/-- Reads and executes a line; one that is rejected changes nothing. -/
def enter (d : Drawing) (line : Text) : Except CommandError Drawing := (Command.read line).map d.execute

end Drawing

end Plotter
