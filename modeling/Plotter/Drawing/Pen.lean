import Plotter.Command
import Plotter.Drawing.Operation

namespace Plotter

structure Pen where
  position : Point
  color : Color
  fill : Bool
deriving DecidableEq

namespace Number

/-- Fit for an extent: defined and not below zero. -/
def isSize (n : Number) : Bool := n ≠ .nan && !n.isNegative

/-- The extent to draw with, in place of one that is not a size zero. -/
def extent (n : Number) : Number := if n.isSize then n else .zero

end Number

namespace Pen

def initial : Pen := ⟨.origin, .black, false⟩

def after (pen : Pen) : Command → Pen
  | .moveTo target | .drawTo target => { pen with position := target }
  | .clear | .reset => { pen with position := .origin }
  | .color choice => { pen with color := choice.color }
  | .fill on => { pen with fill := on }
  | .rectangle _ _ | .circle _ | .triangle _ _ _ => pen

end Pen

namespace Command

def operation? (c : Command) (pen : Pen) (background : Color) : Option Operation :=
  match c with
  | drawTo target => some (.draw ⟨.line pen.position target, pen.color⟩)
  | clear => some (.clear background)
  | rectangle width height => some (.draw ⟨.rect pen.position width.extent height.extent pen.fill, pen.color⟩)
  | circle radius => some (.draw ⟨.ellipse pen.position radius.extent radius.extent pen.fill, pen.color⟩)
  | triangle p q r => some (.draw ⟨.polygon [p, q, r] pen.fill, pen.color⟩)
  | moveTo _ | color _ | reset | fill _ => none

def extents : Command → List Number
  | rectangle width height => [width, height]
  | circle radius => [radius]
  | moveTo _ | drawTo _ | clear | triangle _ _ _ | color _ | reset | fill _ => []

def badExtent (n : Number) : Text := "extent ".toList ++ n.text ++ " is not a size: drawing empty shape".toList

/-- The command itself, then each extent that is not a size, or the change of color or filling. -/
def notices (c : Command) : List Text :=
  c.text :: (c.extents.filter fun n => !n.isSize).map badExtent ++
    match c with
    | color choice => ["pen color is now ".toList ++ choice.name]
    | fill on => ["fill is now ".toList ++ Switch.text on]
    | moveTo _ | drawTo _ | clear | rectangle _ _ | circle _ | triangle _ _ _ | reset => []

end Command

end Plotter
