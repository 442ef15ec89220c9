import Plotter.Text

namespace Plotter

inductive ArgumentKind
  | number
  | color
  | switch
deriving DecidableEq

/-- What a message says was expected. -/
def ArgumentKind.text : ArgumentKind → Text
  | number => "a number".toList
  | color => "a color name".toList
  | switch => "on or off".toList

inductive Keyword
  | moveTo
  | drawTo
  | clear
  | rectangle
  | circle
  | triangle
  | color
  | reset
  | fill
deriving DecidableEq

namespace Keyword

def all : List Keyword := [moveTo, drawTo, clear, rectangle, circle, triangle, color, reset, fill]

def text : Keyword → Text
  | moveTo => "moveto".toList
  | drawTo => "drawto".toList
  | clear => "clear".toList
  | rectangle => "rectangle".toList
  | circle => "circle".toList
  | triangle => "triangle".toList
  | color => "color".toList
  | reset => "reset".toList
  | fill => "fill".toList

def named? (word : Text) : Option Keyword := all.find? fun k => k.text.SameWord word

def signature : Keyword → List ArgumentKind
  | moveTo | drawTo | rectangle => [.number, .number]
  | clear | reset => []
  | circle => [.number]
  | triangle => [.number, .number, .number, .number, .number, .number]
  | color => [.color]
  | fill => [.switch]

def arity (k : Keyword) : Nat := k.signature.length

end Keyword

end Plotter
