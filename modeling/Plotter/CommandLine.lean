import Plotter.CommandLine.Invocation
import Plotter.Session.Conversation

namespace Plotter

structure Transcript where
  output : Text
  aside : Text
  files : Files
  failure : Option Text

namespace CommandLine

open Text (line)

def verboseLog (options : Options) (d : Drawing) : Text := if options.verbose then d.log.flatMap line else []

def checkSource (files : Files) (source : Text) : Transcript :=
  match checkReport (validate source) with
  | .ok report => ⟨line report, [], files, none⟩
  | .error report => ⟨[], [], files, some report⟩

def summary (d : Drawing) (lines : Nat) : Text :=
  line [] ++ line "--- summary ---".toList ++ line (d.summaryTable lines) ++ line d.penTable

/-- All operations are listed, also those drawn before a line that is rejected. The summary and the
document are for a program that ran to its end. -/
def runSource (files : Files) (options : Options) (source : Text) : Transcript :=
  match (Drawing.blank options.size options.background).run source with
  | (d, .error e) =>
    ⟨line (Listed.table d.canvas.listing), verboseLog options d, files, some e.message⟩
  | (d, .ok n) =>
    let output := line (Listed.table d.canvas.listing) ++ summary d n
    match options.svg with
    | none => ⟨output, verboseLog options d, files, none⟩
    | some path =>
      match files.write path d.canvas.sheet.document with
      | .ok written => ⟨output ++ line ("wrote ".toList ++ path), verboseLog options d, written, none⟩
      | .error e => ⟨output, verboseLog options d, files, some e.message⟩

def withSource (files : Files) (path : Text) (f : Text → Transcript) : Transcript :=
  match files.read path with
  | .ok source => f source
  | .error e => ⟨[], [], files, some e.message⟩

def repl (files : Files) (options : Options) (input : Bytes) : Transcript :=
  let talk := Conversation.hold (.blank options.size options.background) files input.chunks
  ⟨line Request.helpText ++ talk.output, verboseLog options talk.session.drawing, talk.files, talk.failure⟩

def perform (files : Files) (input : Bytes) : Invocation → Transcript
  | .check file => withSource files file (checkSource files)
  | .run file options => withSource files file (runSource files options)
  | .repl options => repl files options input

end CommandLine

end Plotter
