import Plotter.Proofs.Drawing.Geometry
import Plotter.Proofs.Number.Plain

namespace Plotter

open Text (Digits Unsigned Plain)

def PlainPair (t : Text) : Prop := ∃ x y, Plain x ∧ Plain y ∧ t = x ++ ',' :: y

/-- The name of an element, and the attributes that place it. -/
inductive Placement : Text → List Attribute → Prop
  | line {x1 y1 x2 y2 : Text} (hx1 : Plain x1) (hy1 : Plain y1) (hx2 : Plain x2) (hy2 : Plain y2) :
      Placement "line".toList [("x1".toList, x1), ("y1".toList, y1), ("x2".toList, x2), ("y2".toList, y2)]
  | rect {x y width height : Text} (hx : Plain x) (hy : Plain y) (hw : Unsigned width) (hh : Unsigned height) :
      Placement "rect".toList
        [("x".toList, x), ("y".toList, y), ("width".toList, width), ("height".toList, height)]
  | ellipse {cx cy rx ry : Text} (hcx : Plain cx) (hcy : Plain cy) (hrx : Unsigned rx) (hry : Unsigned ry) :
      Placement "ellipse".toList
        [("cx".toList, cx), ("cy".toList, cy), ("rx".toList, rx), ("ry".toList, ry)]
  | polygon {pairs : List Text} (h : ∀ t ∈ pairs, PlainPair t) :
      Placement "polygon".toList [("points".toList, Text.join ' ' pairs)]

inductive PlainElement : Text → Prop
  | intro {name : Text} {place : List Attribute} (h : Placement name place) (color : Color) (filled : Bool) :
      PlainElement (openTag name (place ++ Attribute.paint color filled) ++ "/>".toList)

/-- The size is in digits, and then a ground without coordinates is followed by plain elements. -/
inductive PlainDocument : Text → Prop
  | intro {width height : Text} {elements : List Text} (hw : Digits width) (hh : Digits height)
      (background : Color) (h : ∀ e ∈ elements, PlainElement e) :
      PlainDocument <| List.flatMap Text.line <|
        (openTag "svg".toList [("xmlns".toList, "http://www.w3.org/2000/svg".toList), ("width".toList, width),
            ("height".toList, height), ("viewBox".toList, "0 0 ".toList ++ width ++ ' ' :: height)] ++ ['>']) ::
          (Sheet.ground background :: elements).map ("  ".toList ++ ·) ++ ["</svg>".toList]

theorem Point.IsFinite.plain {p : Point} (h : p.IsFinite) : Plain p.x.text ∧ Plain p.y.text :=
  ⟨Number.plain_of_isFinite h.1, Number.plain_of_isFinite h.2⟩

theorem Shape.Valid.unsigned {s : Shape} {n : Number} (h : s.Valid) (he : ¬ s.Empty) (hn : n ∈ s.extents) :
    Unsigned n.text := by
  -- An extent of zero might have a sign, but then the shape is empty.
  obtain ⟨hf, hneg⟩ := h.extents n hn
  have hz : n.isZero = false := by
    rw [← Bool.not_eq_true, Number.isZero_iff]
    rintro ⟨negative, rfl⟩
    exact he ⟨negative, hn⟩
  exact Number.unsigned_of_pos hf hneg hz

theorem Mark.plain_element {m : Mark} (h : m.shape.Valid) (he : ¬ m.shape.Empty) : PlainElement m.element := by
  have hpoint {p : Point} (hp : p ∈ m.shape.points) : Plain p.x.text ∧ Plain p.y.text := (h.points p hp).plain
  have hextent {n : Number} (hn : n ∈ m.shape.extents) : Unsigned n.text := h.unsigned he hn
  obtain ⟨shape, color⟩ := m
  cases shape with
  | line start stop =>
      obtain ⟨hx1, hy1⟩ : Plain start.x.text ∧ Plain start.y.text := hpoint (by simp [Shape.points])
      obtain ⟨hx2, hy2⟩ : Plain stop.x.text ∧ Plain stop.y.text := hpoint (by simp [Shape.points])
      exact .intro (.line hx1 hy1 hx2 hy2) color false
  | rect corner width height filled =>
      obtain ⟨hx, hy⟩ : Plain corner.x.text ∧ Plain corner.y.text := hpoint (by simp [Shape.points])
      have hw : Unsigned width.text := hextent (by simp [Shape.extents])
      have hh : Unsigned height.text := hextent (by simp [Shape.extents])
      exact .intro (.rect hx hy hw hh) color filled
  | ellipse center rx ry filled =>
      obtain ⟨hx, hy⟩ : Plain center.x.text ∧ Plain center.y.text := hpoint (by simp [Shape.points])
      have hrx : Unsigned rx.text := hextent (by simp [Shape.extents])
      have hry : Unsigned ry.text := hextent (by simp [Shape.extents])
      exact .intro (.ellipse hx hy hrx hry) color filled
  | polygon points filled =>
      have hpairs : ∀ t ∈ points.map fun p => p.x.text ++ ',' :: p.y.text, PlainPair t := by
        intro t ht
        obtain ⟨p, hp, rfl⟩ := List.mem_map.mp ht
        obtain ⟨hx, hy⟩ := hpoint hp
        exact ⟨_, _, hx, hy, rfl⟩
      exact .intro (.polygon hpairs) color filled

theorem Sheet.plain_document {s : Sheet} (h : ∀ m ∈ s.marks, m.shape.Valid ∧ ¬ m.shape.Empty) :
    PlainDocument s.document := by
  have helements : ∀ e ∈ s.marks.map Mark.element, PlainElement e := by
    intro e he
    obtain ⟨m, hm, rfl⟩ := List.mem_map.mp he
    obtain ⟨hv, hne⟩ := h m hm
    exact Mark.plain_element hv hne
  exact .intro (Text.digits_ofNat _) (Text.digits_ofNat _) s.background helements

theorem Record.valid_marks {r : Record} (h : ∀ op ∈ r, op.Valid) :
    ∀ m ∈ r.marks, m.shape.Valid ∧ ¬ m.shape.Empty := by
  intro m hm
  obtain ⟨op, hop, hmark⟩ := List.mem_filterMap.mp hm
  have hr : op ∈ r := (List.rtakeWhile_suffix _ _).subset hop
  cases op with
  | draw mark =>
      rw [Operation.mark?] at hmark
      split at hmark
      next => cases hmark
      next he =>
        cases hmark
        exact ⟨h _ hr, he⟩
  | clear => cases hmark

end Plotter
