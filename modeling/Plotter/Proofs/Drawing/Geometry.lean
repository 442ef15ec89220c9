import Plotter.Proofs.Command.Canonical
import Plotter.Proofs.Drawing.Drawn
import Plotter.Proofs.Drawing.LastWriter
import Plotter.Proofs.Drawing.Record

namespace Plotter

namespace Number

/-- An extent as it is given, and as it is drawn. -/
structure Clamped (given drawn : Number) : Prop where
  ne_nan : drawn ≠ .nan
  not_negative : drawn.isNegative = false
  eq_given : given ≠ .nan → given.isNegative = false → drawn = given
  eq_zero : given = .nan ∨ given.isNegative → drawn = .zero

@[simp] theorem isSize_iff {n : Number} : n.isSize ↔ n ≠ .nan ∧ n.isNegative = false := by simp [isSize]

theorem clamped_extent (n : Number) : Clamped n n.extent := by
  by_cases h : n.isSize
  · have he : n.extent = n := if_pos h
    obtain ⟨hnan, hneg⟩ := isSize_iff.mp h
    rw [he]
    refine ⟨hnan, hneg, fun _ _ => rfl, ?_⟩
    rintro (hn | hn)
    · exact absurd hn hnan
    · rw [hneg] at hn
      cases hn
  · have he : n.extent = .zero := if_neg h
    rw [he]
    exact ⟨nofun, rfl, fun hnan hneg => absurd (isSize_iff.mpr ⟨hnan, hneg⟩) h, fun _ => rfl⟩

theorem isFinite_extent {n : Number} (h : n.isFinite) : n.extent.isFinite := by
  rw [extent]
  split
  · exact h
  · rfl

end Number

def Point.IsFinite (p : Point) : Prop := p.x.isFinite ∧ p.y.isFinite

namespace Shape

def points : Shape → List Point
  | line start stop => [start, stop]
  | rect corner _ _ _ => [corner]
  | ellipse center _ _ _ => [center]
  | polygon points _ => points

/-- All numbers of the shape are finite, and its extents are not below zero. -/
structure Valid (s : Shape) : Prop where
  points : ∀ p ∈ s.points, p.IsFinite
  extents : ∀ n ∈ s.extents, n.isFinite ∧ n.isNegative = false

end Shape

namespace Operation

def Valid : Operation → Prop
  | draw mark => mark.shape.Valid
  | clear _ => True

def extents : Operation → List Number
  | draw mark => mark.shape.extents
  | clear _ => []

end Operation

namespace Command

/-- The extents that the command draws with, as it gives them. -/
def sides : Command → List Number
  | rectangle width height => [width, height]
  | circle radius => [radius, radius]
  | moveTo _ | drawTo _ | clear | triangle _ _ _ | color _ | reset | fill _ => []

variable {c : Command} {pen : Pen} {background : Color} {op : Operation}

theorem isFinite_position (hc : c.Expressible) (hp : pen.position.IsFinite) : (pen.after c).position.IsFinite := by
  cases c with
  | moveTo | drawTo =>
      obtain ⟨hx, hy, -⟩ := hc
      exact ⟨hx, hy⟩
  | clear | reset => exact ⟨rfl, rfl⟩
  | rectangle | circle | triangle | color | fill => exact hp

theorem Draws.valid (h : Draws pen background c op) (hc : c.Expressible) (hp : pen.position.IsFinite) : op.Valid := by
  have hextent {n : Number} (hn : n.isFinite) : n.extent.isFinite ∧ n.extent.isNegative = false :=
    ⟨Number.isFinite_extent hn, n.clamped_extent.not_negative⟩
  cases h with
  | line target =>
      obtain ⟨hx, hy, -⟩ := hc
      exact ⟨by simpa [Shape.points] using ⟨hp, hx, hy⟩, by simp [Shape.extents]⟩
  | clear => trivial
  | rect width height =>
      obtain ⟨hw, hh, -⟩ := hc
      exact ⟨by simpa [Shape.points] using hp, by simpa [Shape.extents] using ⟨hextent hw, hextent hh⟩⟩
  | ellipse radius =>
      obtain ⟨hr, -⟩ := hc
      exact ⟨by simpa [Shape.points] using hp, by simpa [Shape.extents] using hextent hr⟩
  | polygon p q r =>
      obtain ⟨hpx, hpy, hqx, hqy, hrx, hry, -⟩ := hc
      exact ⟨by simpa [Shape.points] using ⟨⟨hpx, hpy⟩, ⟨hqx, hqy⟩, hrx, hry⟩, by simp [Shape.extents]⟩

theorem Draws.clamped (h : Draws pen background c op) : List.Forall₂ Number.Clamped c.sides op.extents := by
  cases h with
  | line | clear | polygon => exact .nil
  | rect width height => exact .cons width.clamped_extent (.cons height.clamped_extent .nil)
  | ellipse radius => exact .cons radius.clamped_extent (.cons radius.clamped_extent .nil)

end Command

namespace Pen

variable {pen : Pen} {background : Color} {cs : List Command}

theorem clamped_drawn (background : Color) (pen : Pen) (cs : List Command) :
    List.Forall₂ (fun c op => List.Forall₂ Number.Clamped c.sides op.extents) (cs.filter Command.draws)
      (pen.drawn background cs) := by
  induction cs generalizing pen with
  | nil => exact .nil
  | cons c cs ih =>
      obtain ⟨hd, op, hop, h⟩ | ⟨hd, hop⟩ := c.operation?_cases pen background
      · rw [List.filter_cons_of_pos hd, drawn, hop]
        exact .cons h.clamped (ih _)
      · rw [List.filter_cons_of_neg (by simp [hd]), drawn, hop]
        exact ih _

theorem isFinite_foldl_after (hc : ∀ c ∈ cs, c.Expressible) (hp : pen.position.IsFinite) :
    (cs.foldl after pen).position.IsFinite := by
  induction cs generalizing pen with
  | nil => exact hp
  | cons c cs ih =>
      rw [List.forall_mem_cons] at hc
      exact ih hc.2 (Command.isFinite_position hc.1 hp)

theorem valid_drawn (hc : ∀ c ∈ cs, c.Expressible) (hp : pen.position.IsFinite) :
    ∀ op ∈ pen.drawn background cs, op.Valid := by
  -- The position of the pen is the invariant: lines and shapes start from it.
  induction cs generalizing pen with
  | nil => exact List.forall_mem_nil _
  | cons c cs ih =>
      rw [List.forall_mem_cons] at hc
      have hrest : ∀ op ∈ (pen.after c).drawn background cs, op.Valid :=
        ih hc.2 (Command.isFinite_position hc.1 hp)
      obtain ⟨-, op, hop, h⟩ | ⟨-, hop⟩ := c.operation?_cases pen background
      · rw [drawn, hop]
        exact List.forall_mem_cons.mpr ⟨h.valid hc.1 hp, hrest⟩
      · rw [drawn, hop]
        exact hrest

end Pen

end Plotter
