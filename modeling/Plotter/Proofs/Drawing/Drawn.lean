import Plotter.Drawing

namespace Plotter

namespace Pen

def drawn (background : Color) (pen : Pen) : List Command → List Operation
  | [] => []
  | c :: cs => (c.operation? pen background).toList ++ (pen.after c).drawn background cs

variable {background : Color}

theorem drawn_append (pen : Pen) (cs ds : List Command) :
    pen.drawn background (cs ++ ds) = pen.drawn background cs ++ (cs.foldl after pen).drawn background ds := by
  induction cs generalizing pen with
  | nil => rfl
  | cons c cs ih => rw [List.cons_append, drawn, drawn, ih, List.foldl_cons, List.append_assoc]

end Pen

namespace Canvas

@[simp] theorem operations_apply (canvas : Canvas) (op : Operation) :
    (canvas.apply op).operations = canvas.operations ++ [op] :=
  rfl

@[simp] theorem sheet_apply (canvas : Canvas) (op : Operation) : (canvas.apply op).sheet = canvas.sheet.apply op := rfl

@[simp] theorem operations_foldl_apply (canvas : Canvas) (ops : List Operation) :
    (ops.foldl apply canvas).operations = canvas.operations ++ ops := by
  induction ops generalizing canvas with
  | nil => simp
  | cons op ops ih => simp [ih]

@[simp] theorem sheet_foldl_apply (canvas : Canvas) (ops : List Operation) :
    (ops.foldl apply canvas).sheet = ops.foldl Sheet.apply canvas.sheet := by
  induction ops generalizing canvas with
  | nil => rfl
  | cons op ops ih => simp [ih]

end Canvas

namespace Drawing

@[simp] theorem pen_execute (d : Drawing) (c : Command) : (d.execute c).pen = d.pen.after c := rfl

@[simp] theorem background_execute (d : Drawing) (c : Command) : (d.execute c).background = d.background := rfl

theorem canvas_execute (d : Drawing) (c : Command) :
    (d.execute c).canvas = (c.operation? d.pen d.background).toList.foldl Canvas.apply d.canvas := by
  rw [execute]
  cases c.operation? d.pen d.background with
  | none => rfl
  | some op => rfl

@[simp] theorem pen_foldl_execute (d : Drawing) (cs : List Command) :
    (cs.foldl execute d).pen = cs.foldl Pen.after d.pen := by
  induction cs generalizing d with
  | nil => rfl
  | cons c cs ih => simp [ih]

@[simp] theorem canvas_foldl_execute (d : Drawing) (cs : List Command) :
    (cs.foldl execute d).canvas = (d.pen.drawn d.background cs).foldl Canvas.apply d.canvas := by
  induction cs generalizing d with
  | nil => rfl
  | cons c cs ih =>
      rw [List.foldl_cons, ih, canvas_execute]
      simp [Pen.drawn]

@[simp] theorem background_foldl_execute (d : Drawing) (cs : List Command) :
    (cs.foldl execute d).background = d.background := by
  induction cs generalizing d with
  | nil => rfl
  | cons c cs ih => simp [ih]

end Drawing

end Plotter
