import Plotter.Text

namespace Plotter

inductive Request
  | quit
  | pen
  | check
  | checkLine (line : Text)
  | save (path : Text)
  | load (path : Text)
  | svg (path : Text)
  | help
deriving DecidableEq

namespace Request

def helpText : Text :=
  Text.join '\n' [
    "commands are executed as they are entered; meta commands:".toList,
    "  :check            validate the session's accepted commands".toList,
    "  :check <command>  check a command without executing it".toList,
    "  :load <path>      run a program file and append it to the session".toList,
    "  :save <path>      write the session's accepted commands to a file".toList,
    "  :svg <path>       write the current drawing as SVG".toList,
    "  :pen              show the pen state".toList,
    "  :quit             leave".toList]

/-- An unknown name, or a missing path, asks for help. -/
def ofName (name argument : Text) : Request :=
  if name = "q".toList ∨ name = "quit".toList then quit
  else if name = "pen".toList then pen
  else if name = "check".toList then if argument = [] then check else checkLine argument
  else if argument = [] then help
  else if name = "save".toList then save argument
  else if name = "load".toList then load argument
  else if name = "svg".toList then svg argument
  else help

def read (t : Text) : Request :=
  let (name, rest) := t.span (· ≠ ' ')
  ofName name (Text.trim (rest.drop 1))

def path? : Request → Option Text
  | save path | load path | svg path => some path
  | quit | pen | check | checkLine _ | help => none

end Request

inductive Input
  | blank
  | request (request : Request)
  | command (line : Text)
deriving DecidableEq

def Input.read (line : Text) : Input :=
  match line.trim with
  | [] => blank
  | ':' :: rest => request (Request.read rest)
  | c :: rest => command (c :: rest)

def Input.path? : Input → Option Text
  | request r => r.path?
  | blank | command _ => none

end Plotter
