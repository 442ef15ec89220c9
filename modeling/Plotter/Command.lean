import Plotter.Command.Argument
import Plotter.Number.Notation

namespace Plotter

inductive Command
  | moveTo (target : Point)
  | drawTo (target : Point)
  | clear
  | rectangle (width height : Number)
  | circle (radius : Number)
  | triangle (a b c : Point)
  | color (choice : NamedColor)
  | reset
  | fill (on : Bool)
deriving DecidableEq

namespace Command

def keyword : Command → Keyword
  | moveTo _ => .moveTo
  | drawTo _ => .drawTo
  | clear => .clear
  | rectangle _ _ => .rectangle
  | circle _ => .circle
  | triangle _ _ _ => .triangle
  | color _ => .color
  | reset => .reset
  | fill _ => .fill

def arguments : (c : Command) → Arguments c.keyword.signature
  | moveTo p | drawTo p => (p.x, p.y, ())
  | rectangle width height => (width, height, ())
  | clear | reset => ()
  | circle radius => (radius, ())
  | triangle a b c => (a.x, a.y, b.x, b.y, c.x, c.y, ())
  | color choice => (choice, ())
  | fill on => (on, ())

end Command

/-- Takes what it reads off the front of a line's tokens. -/
abbrev Taking (α : Type) := StateT (List Text) (Except CommandError) α

namespace Taking

/-- The next token. The tokens are counted beforehand, so one is left wherever a keyword takes it. -/
def token (keyword : Keyword) : Taking Text
  | [] => .error (.arity keyword 0)
  | token :: tokens => .ok (token, tokens)

def value (keyword : Keyword) (kind : ArgumentKind) : Taking kind.Value := do kind.read (← token keyword)

def number (keyword : Keyword) : Taking Number := value keyword .number

def point (keyword : Keyword) : Taking Point := do return ⟨← number keyword, ← number keyword⟩

def command : (keyword : Keyword) → Taking Command
  | .moveTo => do return .moveTo (← point .moveTo)
  | .drawTo => do return .drawTo (← point .drawTo)
  | .clear => return .clear
  | .rectangle => do return .rectangle (← number .rectangle) (← number .rectangle)
  | .circle => do return .circle (← number .circle)
  | .triangle => do return .triangle (← point .triangle) (← point .triangle) (← point .triangle)
  | .color => do return .color (← value .color .color)
  | .reset => return .reset
  | .fill => do return .fill (← value .fill .switch)

end Taking

namespace Command

/-- Reads a line. Spaces are not collapsed, so a doubled one holds an empty token. -/
def read (line : Text) : Except CommandError Command :=
  match line.splitOn ' ' with
  | [] | [] :: _ => .error .emptyLine
  | word :: tokens =>
    match Keyword.named? word with
    | none => .error (.unknownCommand word)
    | some keyword =>
      if tokens.length = keyword.arity then (Taking.command keyword).run' tokens
      else .error (.arity keyword tokens.length)

def tokens (c : Command) : List Text := c.keyword.text :: Arguments.tokens _ c.arguments

def text (c : Command) : Text := Text.join ' ' c.tokens

end Command

end Plotter
