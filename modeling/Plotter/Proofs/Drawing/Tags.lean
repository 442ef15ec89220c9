import Plotter.Drawing.Sheet
import Plotter.Proofs.Color.Channels
import Plotter.Proofs.Text.Pieces

namespace Plotter

namespace Attribute

/-- On one line. The name ends at the sign of equality, and the value at the second quotation mark. -/
structure Legible (a : Attribute) : Prop where
  name : '=' ∉ a.1 ∧ '\n' ∉ a.1
  value : '"' ∉ a.2 ∧ '\n' ∉ a.2

variable {a b : Attribute} {as bs : List Attribute} {u v : Text}

theorem text_append_inj (ha : a.Legible) (hb : b.Legible) (h : a.text ++ u = b.text ++ v) : a = b ∧ u = v := by
  have hparts : a.1 ++ '=' :: '"' :: (a.2 ++ '"' :: u) = b.1 ++ '=' :: '"' :: (b.2 ++ '"' :: v) := by
    simpa [text] using h
  obtain ⟨hname, hrest⟩ := Text.append_cons_inj ha.name.1 hb.name.1 hparts
  obtain ⟨hvalue, huv⟩ := Text.append_cons_inj ha.value.1 hb.value.1 (List.cons.inj hrest).2
  exact ⟨Prod.ext hname hvalue, huv⟩

theorem newline_not_mem_text (h : a.Legible) : '\n' ∉ a.text := by simp [text, h.name.2, h.value.2]

theorem flatMap_append_inj (ha : ∀ a ∈ as, a.Legible) (hb : ∀ b ∈ bs, b.Legible) (hu : u.head? ≠ some ' ')
    (hv : v.head? ≠ some ' ')
    (h : (as.flatMap fun a => ' ' :: a.text) ++ u = (bs.flatMap fun b => ' ' :: b.text) ++ v) : as = bs := by
  -- The space before each attribute tells where the last one is.
  induction as generalizing bs with
  | nil =>
      cases bs with
      | nil => rfl
      | cons b bs => exact absurd (congrArg List.head? h) hu
  | cons a as ih =>
      cases bs with
      | nil => exact absurd (congrArg List.head? h).symm hv
      | cons b bs =>
          rw [List.forall_mem_cons] at ha hb
          rw [List.flatMap_cons, List.flatMap_cons, List.append_assoc, List.append_assoc] at h
          obtain ⟨rfl, hrest⟩ := text_append_inj ha.1 hb.1 (List.cons.inj h).2
          rw [ih ha.2 hb.2 hrest]

theorem legible {name value : Text} (hn : '=' ∉ name ∧ '\n' ∉ name) (hv : '"' ∉ value ∧ '\n' ∉ value) :
    Legible (name, value) := ⟨hn, hv⟩

theorem legible_number {name : Text} (h : '=' ∉ name ∧ '\n' ∉ name) (n : Number) : Legible (name, n.text) :=
  legible h ⟨n.not_mem_text rfl (by decide), n.not_mem_text rfl (by decide)⟩

theorem legible_numbers {names : List Text} (h : ∀ name ∈ names, '=' ∉ name ∧ '\n' ∉ name) (ns : List Number) :
    ∀ a ∈ List.zipWith (fun name n => (name, n.text)) names ns, Attribute.Legible a := by
  induction names generalizing ns with
  | nil => exact List.forall_mem_nil _
  | cons name names ih =>
      cases ns with
      | nil => exact List.forall_mem_nil _
      | cons n ns =>
          rw [List.forall_mem_cons] at h
          exact List.forall_mem_cons.mpr ⟨legible_number h.1 n, ih h.2 ns⟩

theorem legible_paint (c : Color) (filled : Bool) : ∀ a ∈ paint c filled, a.Legible := by
  have hhex : '"' ∉ c.hex ∧ '\n' ∉ c.hex := ⟨c.not_mem_hex (by decide), c.not_mem_hex (by decide)⟩
  have hopacity : '"' ∉ c.opacityText ∧ '\n' ∉ c.opacityText :=
    ⟨c.not_mem_opacityText rfl (by decide), c.not_mem_opacityText rfl (by decide)⟩
  have hlast {name : Text} (h : '=' ∉ name ∧ '\n' ∉ name) :
      ∀ a ∈ if c.alpha = 255 then [] else [(name, c.opacityText)], Legible a := by
    split
    · exact List.forall_mem_nil _
    · exact List.forall_mem_singleton.mpr (legible h hopacity)
  cases filled with
  | true => exact List.forall_mem_cons.mpr ⟨legible (by decide) hhex, hlast (by decide)⟩
  | false =>
      exact List.forall_mem_cons.mpr ⟨legible (by decide) (by decide),
        List.forall_mem_cons.mpr ⟨legible (by decide) hhex, hlast (by decide)⟩⟩

theorem paint_inj {c d : Color} {filled other : Bool} (h : paint c filled = paint d other) :
    c = d ∧ filled = other := by
  have hlast {name : Text} (h : (if c.alpha = 255 then [] else [(name, c.opacityText)]) =
      if d.alpha = 255 then [] else [(name, d.opacityText)]) : c.alpha = d.alpha := by
    split at h <;> split at h
    next hc hd => rw [hc, hd]
    next => cases h
    next => cases h
    next => exact Color.opacityText_inj (Prod.mk.inj (List.cons.inj h).1).2
  cases filled with
  | true =>
      cases other with
      | true =>
          obtain ⟨hfill, hopacity⟩ := List.cons.inj h
          exact ⟨Color.eq_of_hex (Prod.mk.inj hfill).2 (hlast hopacity), rfl⟩
      | false => cases (List.cons.inj (Prod.mk.inj (List.cons.inj h).1).2).1
  | false =>
      cases other with
      | true => cases (List.cons.inj (Prod.mk.inj (List.cons.inj h).1).2).1
      | false =>
          obtain ⟨hstroke, hopacity⟩ := List.cons.inj (List.cons.inj h).2
          exact ⟨Color.eq_of_hex (Prod.mk.inj hstroke).2 (hlast hopacity), rfl⟩

end Attribute

/-- On one line, with a name that ends at the first space, and the attributes after it. -/
structure Legible (name : Text) (attributes : List Attribute) : Prop where
  name : ' ' ∉ name ∧ '\n' ∉ name
  ne_nil : attributes ≠ []
  attributes : ∀ a ∈ attributes, a.Legible

namespace Legible

variable {name other u v : Text} {as bs : List Attribute}

theorem openTag_append_inj (h : Legible name as) (h' : Legible other bs) (hu : u.head? ≠ some ' ')
    (hv : v.head? ≠ some ' ') (he : openTag name as ++ u = openTag other bs ++ v) : name = other ∧ as = bs := by
  obtain ⟨a, as, rfl⟩ := List.exists_cons_of_ne_nil h.ne_nil
  obtain ⟨b, bs, rfl⟩ := List.exists_cons_of_ne_nil h'.ne_nil
  have hparts : name ++ (((a :: as).flatMap fun a => ' ' :: a.text) ++ u) =
      other ++ (((b :: bs).flatMap fun b => ' ' :: b.text) ++ v) := by
    simpa only [openTag, List.cons_append, List.append_assoc, List.cons.injEq, true_and] using he
  obtain ⟨rfl, hrest⟩ := Text.append_cons_inj h.name.1 h'.name.1 hparts
  exact ⟨rfl, Attribute.flatMap_append_inj h.attributes h'.attributes hu hv (congrArg (' ' :: ·) hrest)⟩

theorem newline_not_mem_tag (h : Legible name as) (hu : '\n' ∉ u) : '\n' ∉ openTag name as ++ u := by
  have hattributes : '\n' ∉ as.flatMap fun a => ' ' :: a.text := by
    rw [List.mem_flatMap]
    rintro ⟨a, ha, hc⟩
    rcases List.mem_cons.mp hc with hc | hc
    · cases hc
    · exact Attribute.newline_not_mem_text (h.attributes a ha) hc
  simp [openTag, h.name.2, hattributes, hu]

end Legible

namespace Shape

def names : Fin 4 → Text
  | 0 => "line".toList
  | 1 => "rect".toList
  | 2 => "ellipse".toList
  | 3 => "polygon".toList

def kind : Shape → Fin 4
  | line _ _ => 0
  | rect _ _ _ _ => 1
  | ellipse _ _ _ _ => 2
  | polygon _ _ => 3

@[simp] theorem names_kind (s : Shape) : names s.kind = s.name := by cases s <;> rfl

theorem legible_name (s : Shape) : ' ' ∉ s.name ∧ '\n' ∉ s.name := by
  have hnames : ∀ kind, ' ' ∉ names kind ∧ '\n' ∉ names kind := by decide
  exact names_kind s ▸ hnames s.kind

theorem kind_eq_of_name {s t : Shape} (h : s.name = t.name) : s.kind = t.kind := by
  have hnames : ∀ j k, names j = names k → j = k := by decide
  exact hnames _ _ (by rw [names_kind, names_kind, h])

end Shape

theorem Point.eq_of_text {p q : Point} (hx : p.x.text = q.x.text) (hy : p.y.text = q.y.text) : p = q := by
  cases p
  cases q
  rw [Point.mk.injEq]
  exact ⟨Number.text_injective hx, Number.text_injective hy⟩

namespace Mark

variable {m n : Mark}

def corners (points : List Point) : Text := Text.join ' ' (points.map fun p => p.x.text ++ ',' :: p.y.text)

theorem not_mem_corners {c : Char} (hspace : c ≠ ' ') (hcomma : c ≠ ',') (hc : ∀ n : Number, c ∉ n.text)
    (points : List Point) : c ∉ corners points := by
  intro h
  obtain h | ⟨t, ht, h⟩ := Text.mem_join h
  · exact hspace h
  · obtain ⟨p, -, rfl⟩ := List.mem_map.mp ht
    simp [hc, hcomma] at h

theorem legible (m : Mark) : Legible m.shape.name m.attributes := by
  have hnumbers {names : List Text} (h : ∀ name ∈ names, '=' ∉ name ∧ '\n' ∉ name) (ns : List Number) :
      ∀ a ∈ List.zipWith (fun name n => (name, n.text)) names ns, Attribute.Legible a := Attribute.legible_numbers h ns
  have hpaint := Attribute.legible_paint m.color
  obtain ⟨shape, color⟩ := m
  refine ⟨shape.legible_name, ?_, ?_⟩
  · cases shape <;> exact List.cons_ne_nil _ _
  · cases shape with
    | line start stop =>
        have hnames : ∀ name ∈ ["x1".toList, "y1".toList, "x2".toList, "y2".toList], '=' ∉ name ∧ '\n' ∉ name := by
          decide
        exact List.forall_mem_append.mpr ⟨hnumbers hnames [start.x, start.y, stop.x, stop.y], hpaint false⟩
    | rect corner width height filled =>
        have hnames : ∀ name ∈ ["x".toList, "y".toList, "width".toList, "height".toList], '=' ∉ name ∧ '\n' ∉ name := by
          decide
        exact List.forall_mem_append.mpr ⟨hnumbers hnames [corner.x, corner.y, width, height], hpaint filled⟩
    | ellipse center rx ry filled =>
        have hnames : ∀ name ∈ ["cx".toList, "cy".toList, "rx".toList, "ry".toList], '=' ∉ name ∧ '\n' ∉ name := by
          decide
        exact List.forall_mem_append.mpr ⟨hnumbers hnames [center.x, center.y, rx, ry], hpaint filled⟩
    | polygon points filled =>
        have hcorners : '"' ∉ corners points ∧ '\n' ∉ corners points :=
          ⟨not_mem_corners (by decide) (by decide) (Number.not_mem_text rfl (by decide)) points,
            not_mem_corners (by decide) (by decide) (Number.not_mem_text rfl (by decide)) points⟩
        exact List.forall_mem_cons.mpr ⟨Attribute.legible (by decide) hcorners, hpaint filled⟩

theorem corners_injective : Function.Injective corners := by
  intro ps qs h
  have hspace (ps : List Point) : ∀ t ∈ ps.map fun p => p.x.text ++ ',' :: p.y.text, ' ' ∉ t := by
    intro t ht
    obtain ⟨p, -, rfl⟩ := List.mem_map.mp ht
    have hnumber (n : Number) : ' ' ∉ n.text := n.not_mem_text rfl (by decide)
    simp [hnumber]
  have hempty (p : Point) (ps : List Point) : corners (p :: ps) ≠ [] := Text.join_ne_nil (by simp) _
  have hpair : Function.Injective fun p : Point => p.x.text ++ ',' :: p.y.text := by
    intro p q he
    have hnumber (n : Number) : ',' ∉ n.text := n.not_mem_text rfl (by decide)
    obtain ⟨hx, hy⟩ := Text.append_cons_inj (hnumber p.x) (hnumber q.x) he
    exact Point.eq_of_text hx hy
  cases ps with
  | nil =>
      cases qs with
      | nil => rfl
      | cons q qs => exact absurd h.symm (hempty q qs)
  | cons p ps =>
      cases qs with
      | nil => exact absurd h (hempty p ps)
      | cons q qs =>
          apply List.map_injective_iff.mpr hpair
          rw [← Text.splitOn_join (hspace _) (by simp), ← corners, h, corners, Text.splitOn_join (hspace _) (by simp)]

theorem eq_of_attributes (hn : m.shape.name = n.shape.name) (ha : m.attributes = n.attributes) : m = n := by
  have hkind := Shape.kind_eq_of_name hn
  obtain ⟨shape, color⟩ := m
  obtain ⟨other, color'⟩ := n
  cases shape with
  | line start stop =>
      cases other with
      | line start' stop' =>
          simp only [attributes, List.cons_append, List.nil_append, List.cons.injEq, Prod.mk.injEq, true_and] at ha
          obtain ⟨hx, hy, hz, hw, hpaint⟩ := ha
          obtain ⟨rfl, -⟩ := Attribute.paint_inj hpaint
          rw [Point.eq_of_text hx hy, Point.eq_of_text hz hw]
      | rect | ellipse | polygon => cases hkind
  | rect corner width height filled =>
      cases other with
      | rect corner' width' height' filled' =>
          simp only [attributes, List.cons_append, List.nil_append, List.cons.injEq, Prod.mk.injEq, true_and] at ha
          obtain ⟨hx, hy, hwidth, hheight, hpaint⟩ := ha
          obtain ⟨rfl, rfl⟩ := Attribute.paint_inj hpaint
          rw [Point.eq_of_text hx hy, Number.text_injective hwidth, Number.text_injective hheight]
      | line | ellipse | polygon => cases hkind
  | ellipse center rx ry filled =>
      cases other with
      | ellipse center' rx' ry' filled' =>
          simp only [attributes, List.cons_append, List.nil_append, List.cons.injEq, Prod.mk.injEq, true_and] at ha
          obtain ⟨hx, hy, hrx, hry, hpaint⟩ := ha
          obtain ⟨rfl, rfl⟩ := Attribute.paint_inj hpaint
          rw [Point.eq_of_text hx hy, Number.text_injective hrx, Number.text_injective hry]
      | line | rect | polygon => cases hkind
  | polygon points filled =>
      cases other with
      | polygon points' filled' =>
          obtain ⟨hpoints, hpaint⟩ := List.cons.inj ha
          obtain ⟨rfl, rfl⟩ := Attribute.paint_inj hpaint
          rw [corners_injective (Prod.mk.inj hpoints).2]
      | line | rect | ellipse => cases hkind

end Mark

end Plotter
