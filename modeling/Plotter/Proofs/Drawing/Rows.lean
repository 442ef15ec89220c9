import Plotter.Drawing.Listing
import Plotter.Proofs.Color.Naming
import Plotter.Proofs.Drawing.Tags

namespace Plotter

namespace Point

variable {p q : Point} {u v : Text}

theorem text_append_inj (h : p.text ++ u = q.text ++ v) : p = q ∧ u = v := by
  have hcomma (n : Number) : ',' ∉ n.text := n.not_mem_text rfl (by decide)
  have hparen (n : Number) : ')' ∉ n.text := n.not_mem_text rfl (by decide)
  have hparts : p.x.text ++ ',' :: ' ' :: (p.y.text ++ ')' :: u) =
      q.x.text ++ ',' :: ' ' :: (q.y.text ++ ')' :: v) := by
    simpa [text] using h
  obtain ⟨hx, hrest⟩ := Text.append_cons_inj (hcomma p.x) (hcomma q.x) hparts
  obtain ⟨hy, huv⟩ := Text.append_cons_inj (hparen p.y) (hparen q.y) (List.cons.inj hrest).2
  exact ⟨eq_of_text hx hy, huv⟩

theorem text_injective : Function.Injective text := by
  intro p q h
  have happend : p.text ++ [] = q.text ++ [] := by rw [h]
  exact (text_append_inj happend).1

end Point

namespace Shape

variable {s t : Shape}

theorem eq_of_geometry (hk : s.kind = t.kind) (hg : s.geometry = t.geometry) (hf : s.filled? = t.filled?) : s = t := by
  cases s with
  | line start stop =>
      cases t with
      | line start' stop' =>
          rw [geometry, geometry, List.append_assoc, List.append_assoc] at hg
          obtain ⟨rfl, hrest⟩ := Point.text_append_inj hg
          rw [Point.text_injective (List.append_cancel_left hrest)]
      | rect | ellipse | polygon => cases hk
  | rect corner width height filled =>
      cases t with
      | rect corner' width' height' filled' =>
          have hx (n : Number) : 'x' ∉ n.text := n.not_mem_text rfl (by decide)
          rw [geometry, geometry, List.append_assoc, List.append_assoc] at hg
          obtain ⟨rfl, hrest⟩ := Point.text_append_inj hg
          obtain ⟨hwidth, hheight⟩ := Text.append_cons_inj (hx width) (hx width') (List.cons.inj hrest).2
          rw [Number.text_injective hwidth, Number.text_injective hheight, Option.some_inj.mp hf]
      | line | ellipse | polygon => cases hk
  | ellipse center rx ry filled =>
      cases t with
      | ellipse center' rx' ry' filled' =>
          have hcomma (n : Number) : ',' ∉ n.text := n.not_mem_text rfl (by decide)
          rw [geometry, geometry, List.append_assoc, List.append_assoc, List.append_assoc, List.append_assoc] at hg
          obtain ⟨rfl, hrest⟩ := Point.text_append_inj hg
          obtain ⟨hrx, hry⟩ := Text.append_cons_inj (hcomma rx) (hcomma rx') (List.append_cancel_left hrest)
          rw [Number.text_injective hrx, Number.text_injective hry, Option.some_inj.mp hf]
      | line | rect | polygon => cases hk
  | polygon points filled =>
      cases t with
      | polygon points' filled' =>
          have hne (p : Point) : p.text ≠ [] := by simp [Point.text]
          have hpoints : points = points' := Text.join_map_injective (fun _ _ _ _ => Point.text_append_inj) hne hg
          rw [hpoints, Option.some_inj.mp hf]
      | line | rect | ellipse => cases hk

end Shape

namespace Operation

variable {op other : Operation}

theorem filled?_eq_of_filledText (h : op.filledText = other.filledText) : op.filled? = other.filled? := by
  rw [filledText, filledText] at h
  revert h
  rcases op.filled? with _ | _ | _ <;> rcases other.filled? with _ | _ | _ <;> decide

theorem eq_of_columns (hn : op.name = other.name) (hg : op.geometry = other.geometry)
    (hc : op.color.text = other.color.text) (hf : op.filledText = other.filledText) : op = other := by
  have hcolor : op.color = other.color := Color.text_injective hc
  have hclear : ∀ kind, Shape.names kind ≠ "clear".toList := by decide
  cases op with
  | draw mark =>
      cases other with
      | draw mark' =>
          have hshape : mark.shape = mark'.shape :=
            Shape.eq_of_geometry (Shape.kind_eq_of_name hn) hg (filled?_eq_of_filledText hf)
          cases mark
          cases mark'
          cases hshape
          cases hcolor
          rfl
      | clear background => exact absurd (mark.shape.names_kind.trans hn) (hclear _)
  | clear background =>
      cases other with
      | draw mark => exact absurd (mark.shape.names_kind.trans hn.symm) (hclear _)
      | clear background' =>
          cases hcolor
          rfl

/-- Two operations with the same name, geometry, color and filling as they are listed are the same operation, with the
same numbers, zeros by their signs, the same points in the same order, and the same color in all channels. So no two
rows of a listing are equal unless they have one number and list one operation. -/
theorem rows_lossless (op other : Operation) :
    (op.name = other.name ∧ op.geometry = other.geometry ∧ op.color.text = other.color.text ∧
        op.filledText = other.filledText ↔ op = other) ∧
      ∀ n k, Listed.row ⟨n, op⟩ = Listed.row ⟨k, other⟩ ↔ n = k ∧ op = other := by
  have hcolumns : op.name = other.name ∧ op.geometry = other.geometry ∧ op.color.text = other.color.text ∧
      op.filledText = other.filledText ↔ op = other := by
    constructor
    · rintro ⟨hn, hg, hc, hf⟩
      exact eq_of_columns hn hg hc hf
    · rintro rfl
      exact ⟨rfl, rfl, rfl, rfl⟩
  refine ⟨hcolumns, fun n k => ?_⟩
  simp only [Listed.row, cells, List.cons.injEq, and_true, hcolumns, Text.ofNat_injective.eq_iff]

end Operation

end Plotter
