import Plotter.Session

namespace Plotter

inductive Exchange
  | goesOn (output : Text) (session : Session) (files : Files)
  | over (session : Session) (files : Files) (failure : Option Text)

structure Conversation where
  output : Text
  session : Session
  files : Files
  failure : Option Text

namespace Conversation

def prompt : Text := ">>> ".toList

def notText : Text := "error reading input: ".toList ++ FileCause.notText.message

def hear (s : Session) (files : Files) (chunk : Bytes) : Exchange :=
  match Text.decode? chunk with
  | none => .over s files (some notText)
  | some typed =>
    let turn := s.handle files typed
    match turn.reply.text? with
    | none => .over turn.session turn.files none
    | some [] => .goesOn [] turn.session turn.files
    | some shown => .goesOn (Text.line shown) turn.session turn.files

/-- Prompts before every chunk, and once more at the end of the input. -/
def hold (s : Session) (files : Files) : List Bytes → Conversation
  | [] => ⟨prompt, s, files, none⟩
  | chunk :: chunks =>
    match hear s files chunk with
    | .over session files failure => ⟨prompt, session, files, failure⟩
    | .goesOn output session files =>
      let rest := hold session files chunks
      { rest with output := prompt ++ output ++ rest.output }

end Conversation

end Plotter
