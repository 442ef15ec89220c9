import Plotter.Proofs.Drawing.Recovery
import Plotter.Proofs.Program.Execution
import Plotter.Session.Conversation

namespace Plotter

namespace Sheet

def resized (s : Sheet) (size : Size) : Sheet := { s with size }

variable {size : Size}

@[simp] theorem apply_resized (s : Sheet) (op : Operation) : (s.resized size).apply op = (s.apply op).resized size := by
  cases op with
  | clear background => rfl
  | draw mark =>
      rw [apply, apply]
      split <;> rfl

theorem tail_document_resized (s : Sheet) :
    ((s.resized size).document.splitOn '\n').tail = (s.document.splitOn '\n').tail := by
  rw [splitOn_document, splitOn_document]
  rfl

end Sheet

namespace Drawing

def resized (d : Drawing) (size : Size) : Drawing := { d with canvas.sheet := d.canvas.sheet.resized size }

variable {size : Size}

@[simp] theorem execute_resized (d : Drawing) (c : Command) :
    (d.resized size).execute c = (d.execute c).resized size := by
  have hop : (d.resized size).pen = d.pen ∧ (d.resized size).background = d.background := ⟨rfl, rfl⟩
  rw [execute, execute, hop.1, hop.2]
  cases c.operation? d.pen d.background with
  | none => rfl
  | some op => simp [resized, Canvas.apply]

@[simp] theorem enter_resized (d : Drawing) (line : Text) :
    (d.resized size).enter line = (d.enter line).map (·.resized size) := by
  cases hc : Command.read line with
  | error e => simp [enter_error hc, Except.map]
  | ok c => simp [enter_ok hc, Except.map]

@[simp] theorem runLines_resized (d : Drawing) (ls : List Line) :
    (d.resized size).runLines ls = ((d.runLines ls).1.resized size, (d.runLines ls).2) := by
  induction ls generalizing d with
  | nil => rfl
  | cons l ls ih =>
      cases hc : Command.read l.text with
      | error e => simp only [runLines, enter_error hc]
      | ok c => simp only [runLines, enter_ok hc, execute_resized, ih]

@[simp] theorem run_resized (d : Drawing) (source : Text) :
    (d.resized size).run source = ((d.run source).1.resized size, (d.run source).2) := by
  rw [run, run, runLines_resized]
  rcases d.runLines (Line.ofSource source) with ⟨next, _ | e⟩ <;> rfl

end Drawing

namespace Session

def resized (s : Session) (size : Size) : Session := { s with drawing := s.drawing.resized size }

variable {size : Size}

@[simp] theorem enter_resized (s : Session) (line : Text) :
    (s.resized size).enter line = ((s.enter line).1, (s.enter line).2.resized size) := by
  rw [enter, enter, show (s.resized size).drawing = s.drawing.resized size from rfl, Drawing.enter_resized]
  cases s.drawing.enter line <;> rfl

theorem obey_resized {request : Request} (h : request.path? = none) (s : Session) (files other : Files) :
    (s.resized size).obey other request =
      ⟨(s.obey files request).reply, (s.obey files request).session.resized size, other⟩ := by
  cases request with
  | check =>
      rw [obey, obey, show (s.resized size).text = s.text from rfl]
      cases checkReport (validate s.text) <;> rfl
  | quit | pen | checkLine | help => rfl
  | save | load | svg => cases h

theorem answer_resized {input : Input} (h : input.path? = none) (s : Session) (files other : Files) :
    (s.resized size).answer other input =
      ⟨(s.answer files input).reply, (s.answer files input).session.resized size, other⟩ := by
  cases input with
  | blank => rfl
  | request request => exact obey_resized h s files other
  | command line => rw [answer, answer, enter_resized]

theorem handle_resized {line : Text} (h : (Input.read line).path? = none) (s : Session) (files other : Files) :
    (s.resized size).handle other line =
      ⟨(s.handle files line).reply, (s.handle files line).session.resized size, other⟩ := by
  rw [handle, handle, answer_resized h s files other]
  rfl

end Session

namespace Conversation

/-- No line of text in the input names a file. -/
def LeavesFiles (chunks : List Bytes) : Prop :=
  ∀ chunk ∈ chunks, ∀ typed, Text.decode? chunk = some typed → (Input.read typed).path? = none

variable {size : Size} {chunks : List Bytes}

theorem hold_resized (h : LeavesFiles chunks) (s : Session) (files other : Files) :
    hold (s.resized size) other chunks =
      let talk := hold s files chunks
      ⟨talk.output, talk.session.resized size, other, talk.failure⟩ := by
  induction chunks generalizing s files with
  | nil => rfl
  | cons chunk chunks ih =>
      obtain ⟨hfirst, hrest⟩ := List.forall_mem_cons.mp h
      cases hd : Text.decode? chunk with
      | none => simp only [hold, hear, hd]
      | some typed =>
          simp only [hold, hear, hd, Session.handle_resized (hfirst typed hd) s files other]
          rcases (s.handle files typed).reply.text? with _ | _ | ⟨c, shown⟩
          · rfl
          · simp only [ih hrest (s.handle files typed).session (s.handle files typed).files]
          · simp only [ih hrest (s.handle files typed).session (s.handle files typed).files]

end Conversation

end Plotter
