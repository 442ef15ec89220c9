import Plotter.Color
import Plotter.Number.Notation

namespace Plotter

inductive Shape
  | line (start stop : Point)
  | rect (corner : Point) (width height : Number) (filled : Bool)
  | ellipse (center : Point) (rx ry : Number) (filled : Bool)
  | polygon (points : List Point) (filled : Bool)
deriving DecidableEq

namespace Shape

def name : Shape → Text
  | line _ _ => "line".toList
  | rect _ _ _ _ => "rect".toList
  | ellipse _ _ _ _ => "ellipse".toList
  | polygon _ _ => "polygon".toList

def geometry : Shape → Text
  | line start stop => start.text ++ " -> ".toList ++ stop.text
  | rect corner width height _ => corner.text ++ ' ' :: width.text ++ 'x' :: height.text
  | ellipse center rx ry _ => center.text ++ " r=".toList ++ rx.text ++ ',' :: ry.text
  | polygon points _ => Text.join ' ' (points.map Point.text)

def filled? : Shape → Option Bool
  | line _ _ => none
  | rect _ _ _ filled | ellipse _ _ _ filled | polygon _ filled => some filled

/-- A rectangle or an ellipse with an extent of zero covers nothing. -/
def isVisible : Shape → Bool
  | line _ _ | polygon _ _ => true
  | rect _ width height _ => !width.isZero && !height.isZero
  | ellipse _ rx ry _ => !rx.isZero && !ry.isZero

end Shape

structure Mark where
  shape : Shape
  color : Color
deriving DecidableEq

inductive Operation
  | draw (mark : Mark)
  | clear (background : Color)
deriving DecidableEq

namespace Operation

def name : Operation → Text
  | draw mark => mark.shape.name
  | clear _ => "clear".toList

def geometry : Operation → Text
  | draw mark => mark.shape.geometry
  | clear _ => []

def color : Operation → Color
  | draw mark => mark.color
  | clear background => background

def filled? : Operation → Option Bool
  | draw mark => mark.shape.filled?
  | clear _ => none

end Operation

end Plotter
