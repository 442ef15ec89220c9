import Plotter.Drawing.Operation

namespace Plotter

structure Size where
  width : UInt32
  height : UInt32
deriving DecidableEq

structure Sheet where
  size : Size
  background : Color
  marks : List Mark
deriving DecidableEq

namespace Sheet

def blank (size : Size) (background : Color) : Sheet := ⟨size, background, []⟩

def apply (s : Sheet) : Operation → Sheet
  | .draw mark => if mark.shape.isVisible then { s with marks := s.marks ++ [mark] } else s
  | .clear background => { s with background, marks := [] }

end Sheet

abbrev Attribute := Text × Text

namespace Attribute

def text (a : Attribute) : Text := a.1 ++ '=' :: '"' :: a.2 ++ ['"']

/-- Paints an area or an outline; the opacity is named if it is not full. -/
def paint (c : Color) (filled : Bool) : List Attribute :=
  let opacity (name : Text) : List Attribute := if c.alpha = 255 then [] else [(name, c.opacityText)]
  if filled then ("fill".toList, c.hex) :: opacity "fill-opacity".toList
  else ("fill".toList, "none".toList) :: ("stroke".toList, c.hex) :: opacity "stroke-opacity".toList

end Attribute

def openTag (name : Text) (attributes : List Attribute) : Text :=
  '<' :: name ++ attributes.flatMap fun a => ' ' :: a.text

namespace Mark

def attributes (m : Mark) : List Attribute :=
  match m.shape with
  | .line start stop =>
    [("x1".toList, start.x.text), ("y1".toList, start.y.text), ("x2".toList, stop.x.text),
      ("y2".toList, stop.y.text)] ++
      Attribute.paint m.color false
  | .rect corner width height filled =>
    [("x".toList, corner.x.text), ("y".toList, corner.y.text), ("width".toList, width.text),
      ("height".toList, height.text)] ++
      Attribute.paint m.color filled
  | .ellipse center rx ry filled =>
    [("cx".toList, center.x.text), ("cy".toList, center.y.text), ("rx".toList, rx.text), ("ry".toList, ry.text)] ++
      Attribute.paint m.color filled
  | .polygon points filled =>
    ("points".toList, Text.join ' ' (points.map fun p => p.x.text ++ ',' :: p.y.text)) ::
      Attribute.paint m.color filled

def element (m : Mark) : Text := openTag m.shape.name m.attributes ++ "/>".toList

end Mark

namespace Sheet

def header (size : Size) : Text :=
  let width := Text.ofNat size.width.toNat
  let height := Text.ofNat size.height.toNat
  openTag "svg".toList [("xmlns".toList, "http://www.w3.org/2000/svg".toList), ("width".toList, width),
    ("height".toList, height), ("viewBox".toList, "0 0 ".toList ++ width ++ ' ' :: height)] ++ ['>']

def ground (background : Color) : Text :=
  openTag "rect".toList (("width".toList, "100%".toList) :: ("height".toList, "100%".toList) ::
    Attribute.paint background true) ++ "/>".toList

def lines (s : Sheet) : List Text :=
  header s.size :: (ground s.background :: s.marks.map Mark.element).map ("  ".toList ++ ·) ++ ["</svg>".toList]

def document (s : Sheet) : Text := s.lines.flatMap Text.line

end Sheet

end Plotter
