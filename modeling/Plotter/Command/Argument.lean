import Plotter.Color
import Plotter.Number.Notation
import Plotter.Command.Keyword

namespace Plotter

inductive CommandError
  | emptyLine
  | unknownCommand (word : Text)
  | arity (keyword : Keyword) (found : Nat)
  | argumentFormat (token : Text) (expected : ArgumentKind)
  | unknownColor (token : Text)
deriving DecidableEq

def CommandError.message : CommandError → Text
  | emptyLine => "empty command".toList
  | unknownCommand word => "unknown command: ".toList ++ word
  | arity keyword found =>
    keyword.text ++ " requires ".toList ++ Text.ofNat keyword.arity ++ " argument(s), found ".toList ++ Text.ofNat found
  | argumentFormat token expected => "invalid argument '".toList ++ token ++ "': expected ".toList ++ expected.text
  | unknownColor token => "unknown color: ".toList ++ token

def Switch.text (on : Bool) : Text := if on then "on".toList else "off".toList

namespace ArgumentKind

abbrev Value : ArgumentKind → Type
  | number => Number
  | color => NamedColor
  | switch => Bool

def readNumber (token : Text) : Except CommandError Number :=
  match Number.read? token with
  | some n => if n.isFinite then .ok n else .error (.argumentFormat token number)
  | none => .error (.argumentFormat token number)

def readColor (token : Text) : Except CommandError NamedColor :=
  match NamedColor.named? token with
  | some n => .ok n
  | none => .error (.unknownColor token)

def readSwitch (token : Text) : Except CommandError Bool :=
  if (Switch.text true).SameWord token then .ok true
  else if (Switch.text false).SameWord token then .ok false
  else .error (.argumentFormat token switch)

def read : (kind : ArgumentKind) → Text → Except CommandError kind.Value
  | number => readNumber
  | color => readColor
  | switch => readSwitch

def token : (kind : ArgumentKind) → kind.Value → Text
  | number, n => n.text
  | color, n => n.name
  | switch, on => Switch.text on

end ArgumentKind

abbrev Arguments : List ArgumentKind → Type
  | [] => Unit
  | kind :: kinds => kind.Value × Arguments kinds

namespace Arguments

def tokens : (kinds : List ArgumentKind) → Arguments kinds → List Text
  | [], () => []
  | kind :: kinds, (value, values) => kind.token value :: tokens kinds values

end Arguments

end Plotter
