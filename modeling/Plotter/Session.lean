import Plotter.Drawing.Listing
import Plotter.Files
import Plotter.Program
import Plotter.Session.Input

namespace Plotter

def syntaxError (line message : Text) : Text := "syntax error in command: ".toList ++ line ++ '\n' :: message

def checkReport : Except ProgramError Nat → Except Text Text
  | .ok n => .ok ("syntax is correct (".toList ++ Text.ofNat n ++ " commands)".toList)
  | .error e => .error (syntaxError e.line.text e.message)

inductive Reply
  | output (message : Text) (listing : List Listed)
  | quit
deriving DecidableEq

namespace Reply

def say (message : Text) : Reply := output message []

def list (listing : List Listed) : Reply → Reply
  | output message _ => output message listing
  | quit => quit

/-- The message, and below it a table if something is listed; to quit, nothing is said. -/
def text? : Reply → Option Text
  | output message [] => some message
  | output message (l :: ls) => some ((if message = [] then [] else Text.line message) ++ Listed.table (l :: ls))
  | quit => none

end Reply

structure Session where
  drawing : Drawing
  accepted : List Text
deriving DecidableEq

structure Turn where
  reply : Reply
  session : Session
  files : Files

namespace Session

def blank (size : Size) (background : Color) : Session := ⟨.blank size background, []⟩

/-- The accepted lines as a program, which ends with a line feed unless it is empty. -/
def text (s : Session) : Text :=
  match Text.join '\n' s.accepted with
  | [] => []
  | c :: rest => Text.line (c :: rest)

def enter (s : Session) (line : Text) : Text × Session :=
  match s.drawing.enter line with
  | .ok drawing => ([], ⟨drawing, s.accepted ++ [line]⟩)
  | .error e => ("error executing command: ".toList ++ e.message, s)

/-- Runs a program; its lines before the first that is rejected are accepted. -/
def run (s : Session) (source : Text) : Text × Session :=
  let lines := Line.ofSource source
  match s.drawing.run source with
  | (drawing, .ok n) =>
    ("ran ".toList ++ Text.ofNat n ++ " commands".toList, ⟨drawing, s.accepted ++ lines.map (·.text)⟩)
  | (drawing, .error e) =>
    (e.message, ⟨drawing, s.accepted ++ (lines.filter (·.number < e.line.number)).map (·.text)⟩)

def checkLine (line : Text) : Text :=
  match Command.read line with
  | .ok _ => "ok".toList
  | .error e => syntaxError line e.message

def writing (s : Session) (files : Files) (path content done : Text) : Turn :=
  match files.write path content with
  | .ok written => ⟨.say done, s, written⟩
  | .error e => ⟨.say e.message, s, files⟩

def obey (s : Session) (files : Files) : Request → Turn
  | .quit => ⟨.quit, s, files⟩
  | .pen => ⟨.say s.drawing.penTable, s, files⟩
  | .check =>
    match checkReport (validate s.text) with
    | .ok report | .error report => ⟨.say report, s, files⟩
  | .checkLine line => ⟨.say (checkLine line), s, files⟩
  | .save path => s.writing files path s.text ("saved ".toList ++ Text.ofNat s.accepted.length ++ " commands".toList)
  | .load path =>
    match files.read path with
    | .ok source =>
      let (out, next) := s.run source
      ⟨.say out, next, files⟩
    | .error e => ⟨.say e.message, s, files⟩
  | .svg path => s.writing files path s.drawing.canvas.sheet.document ("wrote ".toList ++ path)
  | .help => ⟨.say Request.helpText, s, files⟩

def answer (s : Session) (files : Files) : Input → Turn
  | .blank => ⟨.say [], s, files⟩
  | .request request => s.obey files request
  | .command line =>
    let (out, next) := s.enter line
    ⟨.say out, next, files⟩

/-- Answers a line as it was typed, and lists what it drew. -/
def handle (s : Session) (files : Files) (line : Text) : Turn :=
  let turn := s.answer files (Input.read line)
  { turn with
    reply := turn.reply.list (turn.session.drawing.canvas.listingAfter s.drawing.canvas.operations.length) }

end Session

end Plotter
