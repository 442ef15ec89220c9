import Mathlib.Data.List.DropRight
import Plotter.Drawing

namespace Plotter

namespace Shape

def extents : Shape → List Number
  | line _ _ | polygon _ _ => []
  | rect _ width height _ => [width, height]
  | ellipse _ rx ry _ => [rx, ry]

/-- One of the two extents is zero, whichever its sign. -/
def Empty (s : Shape) : Prop := ∃ negative, Number.finite negative .zero ∈ s.extents

end Shape

theorem Number.isZero_iff {n : Number} : n.isZero = true ↔ ∃ negative, .finite negative .zero = n := by
  cases n with
  | finite negative m => simp [isZero, eq_comm]
  | infinite negative => simp [isZero]
  | nan => simp [isZero]

@[simp] theorem Shape.isVisible_eq_false_iff {s : Shape} : s.isVisible = false ↔ s.Empty := by
  have hextents : s.isVisible = false ↔ ∃ n ∈ s.extents, n.isZero = true := by
    cases s with
    | line | polygon => simp [isVisible, extents]
    | rect | ellipse => simp [isVisible, extents, Bool.and_eq_false_iff, -Bool.and_eq_false_imp]
  rw [hextents, Empty]
  constructor
  · rintro ⟨n, hn, hz⟩
    obtain ⟨negative, rfl⟩ := Number.isZero_iff.mp hz
    exact ⟨negative, hn⟩
  · rintro ⟨negative, hn⟩
    exact ⟨_, hn, Number.isZero_iff.mpr ⟨negative, rfl⟩⟩

instance (s : Shape) : Decidable s.Empty := decidable_of_iff _ Shape.isVisible_eq_false_iff

namespace Operation

def ground? : Operation → Option Color
  | draw _ => none
  | clear background => some background

def mark? : Operation → Option Mark
  | draw mark => if mark.shape.Empty then none else some mark
  | clear _ => none

end Operation

abbrev Record := List Operation

namespace Record

def sinceClear (r : Record) : Record := r.rtakeWhile fun op => op.ground?.isNone

/-- The color of the last clear, or else the one at the start. -/
def ground (initial : Color) (r : Record) : Color := (r.findSomeRev? Operation.ground?).getD initial

def marks (r : Record) : List Mark := r.sinceClear.filterMap Operation.mark?

def sheet (size : Size) (initial : Color) (r : Record) : Sheet := ⟨size, r.ground initial, r.marks⟩

variable {size : Size} {initial : Color} {r : Record}

@[simp] theorem ground_draw (mark : Mark) : ground initial (r ++ [.draw mark]) = ground initial r := by
  simp [ground, List.findSomeRev?_eq_findSome?_reverse, List.findSome?_cons, Operation.ground?]

@[simp] theorem ground_clear (background : Color) : ground initial (r ++ [.clear background]) = background := by
  simp [ground, List.findSomeRev?_eq_findSome?_reverse, List.findSome?_cons, Operation.ground?]

@[simp] theorem marks_draw (mark : Mark) :
    marks (r ++ [.draw mark]) = marks r ++ [.draw mark].filterMap Operation.mark? := by
  have hs : sinceClear (r ++ [.draw mark]) = sinceClear r ++ [.draw mark] := List.rtakeWhile_concat_pos _ _ _ rfl
  rw [marks, hs, List.filterMap_append, marks]

@[simp] theorem marks_clear (background : Color) : marks (r ++ [.clear background]) = [] := by
  have hs : sinceClear (r ++ [.clear background]) = [] := List.rtakeWhile_concat_neg _ _ _ nofun
  rw [marks, hs, List.filterMap_nil]

@[simp] theorem sheet_apply (op : Operation) : (sheet size initial r).apply op = sheet size initial (r ++ [op]) := by
  cases op with
  | clear background => simp [Sheet.apply, sheet]
  | draw mark =>
      cases hv : mark.shape.isVisible with
      | true =>
          have he : ¬ mark.shape.Empty := by simp [← Shape.isVisible_eq_false_iff, hv]
          simp [Sheet.apply, sheet, hv, Operation.mark?, he]
      | false =>
          have he : mark.shape.Empty := Shape.isVisible_eq_false_iff.mp hv
          simp [Sheet.apply, sheet, hv, Operation.mark?, he]

end Record

namespace Canvas

theorem foldl_apply (ops : Record) (size : Size) (initial : Color) :
    ops.foldl apply (blank size initial) = ⟨ops, Record.sheet size initial ops⟩ := by
  induction ops using List.reverseRecOn with
  | nil => rfl
  | append_singleton ops op ih => simp [ih, apply]

/-- After any number of calls for operations on a blank canvas, the record holds just these calls, and
with the size and the first ground it decides the sheet and its document. The ground is that of the last
clear. The elements are those of the operations since then that draw no empty shape, in their order. -/
theorem sheet_of_record (size : Size) (initial : Color) (calls : List Operation) (step : Nat) :
    let canvas := (calls.take step).foldl apply (blank size initial)
    canvas.operations = calls.take step ∧
      canvas.sheet.background = Record.ground initial canvas.operations ∧
      canvas.sheet.marks = Record.marks canvas.operations ∧
      canvas.sheet.marks.length = (Record.sinceClear canvas.operations).countP (·.mark?.isSome) ∧
      canvas.sheet.document = (Record.sheet size initial canvas.operations).document := by
  intro canvas
  have hcanvas : canvas = ⟨calls.take step, Record.sheet size initial (calls.take step)⟩ := foldl_apply _ size initial
  rw [hcanvas]
  exact ⟨rfl, rfl, rfl, List.length_filterMap_eq_countP, rfl⟩

end Canvas

end Plotter
