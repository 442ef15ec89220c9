import Plotter.Proofs.Drawing.Document
import Plotter.Proofs.Program.Log
import Plotter.Proofs.Session.History

namespace Plotter

theorem Command.AllRead.expressible {ts : List Text} {cs : List Command} (h : AllRead ts cs) :
    ∀ c ∈ cs, c.Expressible := by
  induction h with
  | nil => exact List.forall_mem_nil _
  | cons hc _ ih => exact List.forall_mem_cons.mpr ⟨Command.expressible_of_read hc, ih⟩

theorem Drawing.Call.expressible (call : Call) : ∀ c ∈ call.commands, c.Expressible := by
  intro c h
  cases call with
  | enter line | run source => exact Command.expressible_of_mem_upToError h

theorem Drawing.valid_foldl_execute {d : Drawing} {size : Size} {ground : Color} {cs : List Command}
    (hcanvas : d.canvas = .blank size ground) (hp : d.pen.position.IsFinite) (hc : ∀ c ∈ cs, c.Expressible) :
    (cs.foldl execute d).pen.position.IsFinite ∧
      (∀ op ∈ (cs.foldl execute d).canvas.operations, op.Valid) ∧
      PlainDocument (cs.foldl execute d).canvas.sheet.document := by
  have hops : ∀ op ∈ d.pen.drawn d.background cs, op.Valid := Pen.valid_drawn hc hp
  rw [pen_foldl_execute, canvas_foldl_execute, hcanvas, Canvas.foldl_apply]
  exact ⟨Pen.isFinite_foldl_after hc hp, hops, Sheet.plain_document (Record.valid_marks hops)⟩

namespace Session

/-- What can happen to a session: a call on its drawing, or a line typed with any files there. -/
inductive Step
  | call (call : Drawing.Call)
  | typed (files : Files) (line : Text)

def perform (s : Session) : Step → Session
  | .call call => { s with drawing := s.drawing.answer call }
  | .typed files line => (s.handle files line).session

theorem exists_commands (s : Session) (step : Step) :
    ∃ cs : List Command, (∀ c ∈ cs, c.Expressible) ∧
      (s.perform step).drawing = cs.foldl Drawing.execute s.drawing := by
  cases step with
  | call call => exact ⟨call.commands, call.expressible, s.drawing.answer_eq call⟩
  | typed files line =>
      obtain ⟨_, cs, hr, -, hd⟩ := s.extends_handle files line
      exact ⟨cs, hr.expressible, hd⟩

theorem exists_commands_foldl (s : Session) (steps : List Step) :
    ∃ cs : List Command, (∀ c ∈ cs, c.Expressible) ∧
      (steps.foldl perform s).drawing = cs.foldl Drawing.execute s.drawing := by
  induction steps generalizing s with
  | nil => exact ⟨[], List.forall_mem_nil _, rfl⟩
  | cons step steps ih =>
      obtain ⟨cs, hc, hd⟩ := s.exists_commands step
      obtain ⟨ds, hc', hd'⟩ := ih (s.perform step)
      refine ⟨cs ++ ds, List.forall_mem_append.mpr ⟨hc, hc'⟩, ?_⟩
      rw [List.foldl_cons, hd', hd, List.foldl_append]

/-- From a blank canvas and a pen at the start, whatever is entered, run and typed in any order: the
position of the pen is finite, all operations in the record are valid, and the document has plain decimals
only. Commands that are executed as they are, on any drawing and with any numbers, draw with their own
extents or, in place of one that is undefined or below zero, with zero. -/
theorem only_valid_geometry (size : Size) (ground background : Color) (log accepted : List Text)
    (steps : List Step) :
    let d := (steps.foldl perform ⟨⟨.initial, background, .blank size ground, log⟩, accepted⟩).drawing
    (d.pen.position.IsFinite ∧ (∀ op ∈ d.canvas.operations, op.Valid) ∧ PlainDocument d.canvas.sheet.document) ∧
      ∀ (start : Drawing) (cs : List Command), ∃ ops,
        (cs.foldl Drawing.execute start).canvas = ops.foldl Canvas.apply start.canvas ∧
          List.Forall₂ (fun c op => List.Forall₂ Number.Clamped c.sides op.extents)
            (cs.filter Command.draws) ops := by
  intro d
  constructor
  · obtain ⟨cs, hc, hd⟩ :=
      exists_commands_foldl ⟨⟨.initial, background, .blank size ground, log⟩, accepted⟩ steps
    rw [show d = cs.foldl Drawing.execute _ from hd]
    exact Drawing.valid_foldl_execute rfl ⟨rfl, rfl⟩ hc
  · intro start cs
    exact ⟨_, Drawing.canvas_foldl_execute start cs, Pen.clamped_drawn start.background start.pen cs⟩

end Session

end Plotter
