import Mathlib.Data.List.Basic
import Mathlib.Data.List.Forall2
import Plotter.Proofs.Drawing.Drawn

namespace Plotter

namespace Command

def position? : Command → Option Point
  | moveTo target | drawTo target => some target
  | clear | reset => some .origin
  | rectangle _ _ | circle _ | triangle _ _ _ | color _ | fill _ => none

def color? : Command → Option Color
  | color choice => some choice.color
  | moveTo _ | drawTo _ | clear | rectangle _ _ | circle _ | triangle _ _ _ | reset | fill _ => none

def fill? : Command → Option Bool
  | fill on => some on
  | moveTo _ | drawTo _ | clear | rectangle _ _ | circle _ | triangle _ _ _ | color _ | reset => none

def lastWritten {α : Type} (write? : Command → Option α) (initial : α) (cs : List Command) : α :=
  (cs.findSomeRev? write?).getD initial

theorem lastWritten_append {α : Type} (write? : Command → Option α) (initial : α) (cs : List Command) (c : Command) :
    lastWritten write? initial (cs ++ [c]) = (write? c).getD (lastWritten write? initial cs) := by
  simp only [lastWritten, List.findSomeRev?_eq_findSome?_reverse, List.reverse_append, List.reverse_singleton,
    List.singleton_append, List.findSome?_cons]
  cases write? c <;> rfl

/-- What a command calls for on the canvas, with the pen as it stands and a color to clear to. -/
inductive Draws (pen : Pen) (background : Color) : Command → Operation → Prop
  | line (target : Point) : Draws pen background (.drawTo target) (.draw ⟨.line pen.position target, pen.color⟩)
  | clear : Draws pen background .clear (.clear background)
  | rect (width height : Number) :
      Draws pen background (.rectangle width height)
        (.draw ⟨.rect pen.position width.extent height.extent pen.fill, pen.color⟩)
  | ellipse (radius : Number) :
      Draws pen background (.circle radius)
        (.draw ⟨.ellipse pen.position radius.extent radius.extent pen.fill, pen.color⟩)
  | polygon (a b c : Point) :
      Draws pen background (.triangle a b c) (.draw ⟨.polygon [a, b, c] pen.fill, pen.color⟩)

def draws : Command → Bool
  | drawTo _ | clear | rectangle _ _ | circle _ | triangle _ _ _ => true
  | moveTo _ | color _ | reset | fill _ => false

theorem operation?_cases (c : Command) (pen : Pen) (background : Color) :
    (c.draws = true ∧ ∃ op, c.operation? pen background = some op ∧ Draws pen background c op) ∨
      c.draws = false ∧ c.operation? pen background = none := by
  cases c with
  | drawTo target => exact .inl ⟨rfl, _, rfl, .line target⟩
  | clear => exact .inl ⟨rfl, _, rfl, .clear⟩
  | rectangle width height => exact .inl ⟨rfl, _, rfl, .rect width height⟩
  | circle radius => exact .inl ⟨rfl, _, rfl, .ellipse radius⟩
  | triangle p q r => exact .inl ⟨rfl, _, rfl, .polygon p q r⟩
  | moveTo | color | reset | fill => exact .inr ⟨rfl, rfl⟩

/-- Every command with those before it, when some came before the first. -/
def withHistory (before : List Command) : List Command → List (List Command × Command)
  | [] => []
  | c :: cs => (before, c) :: withHistory (before ++ [c]) cs

end Command

namespace Pen

open Command (lastWritten lastWritten_append)

/-- The pen by the last writers among the commands. -/
def written (initial : Pen) (cs : List Command) : Pen :=
  ⟨lastWritten Command.position? initial.position cs, lastWritten Command.color? initial.color cs,
    lastWritten Command.fill? initial.fill cs⟩

theorem after_eq (pen : Pen) (c : Command) :
    pen.after c = ⟨c.position?.getD pen.position, c.color?.getD pen.color, c.fill?.getD pen.fill⟩ := by
  cases c <;> rfl

theorem written_append (initial : Pen) (cs : List Command) (c : Command) :
    initial.written (cs ++ [c]) = (initial.written cs).after c := by
  rw [after_eq, written, lastWritten_append, lastWritten_append, lastWritten_append, written]

end Pen

namespace Drawing

open Command (Draws withHistory)

variable {d : Drawing} {initial : Pen} {before : List Command}

/-- The operation is what the command of this turn calls for, with the pen that those before it have
written. -/
def Draw (initial : Pen) (background : Color) (turn : List Command × Command) (op : Operation) : Prop :=
  Draws (initial.written turn.1) background turn.2 op

theorem exists_operations (hpen : d.pen = initial.written before) (cs : List Command) :
    (cs.foldl execute d).pen = initial.written (before ++ cs) ∧
      (cs.foldl execute d).background = d.background ∧
      ∃ ops, (cs.foldl execute d).canvas = ops.foldl Canvas.apply d.canvas ∧
        List.Forall₂ (Draw initial d.background) ((withHistory before cs).filter (·.2.draws)) ops := by
  -- The pen is the invariant: it is the one written by the commands so far.
  induction cs generalizing d before with
  | nil => exact ⟨by simpa using hpen, rfl, [], rfl, .nil⟩
  | cons c cs ih =>
      have hnext : (d.execute c).pen = initial.written (before ++ [c]) := by
        rw [Pen.written_append, ← hpen]
        rfl
      obtain ⟨hp, hb, ops, hcanvas, hdraws⟩ := ih hnext
      refine ⟨by simpa using hp, hb, ?_⟩
      obtain ⟨hd, op, hop, hdraw⟩ | ⟨hd, hop⟩ := c.operation?_cases d.pen d.background
      · have hfirst : (d.execute c).canvas = d.canvas.apply op := by simp [execute, hop]
        refine ⟨op :: ops, ?_, ?_⟩
        · rw [List.foldl_cons, hcanvas, hfirst, List.foldl_cons]
        · rw [hpen] at hdraw
          rw [withHistory, List.filter_cons_of_pos (by simp [hd])]
          exact .cons hdraw hdraws
      · have hfirst : (d.execute c).canvas = d.canvas := by simp [execute, hop]
        refine ⟨ops, ?_, ?_⟩
        · rw [List.foldl_cons, hcanvas, hfirst]
        · rw [withHistory, List.filter_cons_of_neg (by simp [hd])]
          exact hdraws

/-- After any commands, each component of the pen is what its last writer among them has written. The
operations drawn answer one by one to the commands that draw, and each is drawn with the pen that the
commands before it have written. -/
theorem last_writer_wins (d : Drawing) (cs : List Command) :
    let next := cs.foldl execute d
    next.pen = d.pen.written cs ∧
      next.background = d.background ∧
      ∃ ops, next.canvas = ops.foldl Canvas.apply d.canvas ∧
        next.canvas.operations = d.canvas.operations ++ ops ∧
        List.Forall₂ (Draw d.pen d.background) ((withHistory [] cs).filter (·.2.draws)) ops := by
  intro next
  have hpen : d.pen = d.pen.written [] := rfl
  obtain ⟨hp, hb, ops, hcanvas, hdraws⟩ := exists_operations hpen cs
  refine ⟨hp, hb, ops, hcanvas, ?_, hdraws⟩
  rw [show next.canvas = ops.foldl Canvas.apply d.canvas from hcanvas, Canvas.operations_foldl_apply]

end Drawing

end Plotter
