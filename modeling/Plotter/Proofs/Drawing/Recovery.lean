import Plotter.Proofs.Drawing.Drawn
import Plotter.Proofs.Drawing.Record
import Plotter.Proofs.Drawing.Tags

namespace Plotter

namespace Sheet

open Attribute (legible)

def measures (size : Size) : List Attribute :=
  let width := Text.ofNat size.width.toNat
  let height := Text.ofNat size.height.toNat
  [("xmlns".toList, "http://www.w3.org/2000/svg".toList), ("width".toList, width), ("height".toList, height),
    ("viewBox".toList, "0 0 ".toList ++ width ++ ' ' :: height)]

theorem legible_measures (size : Size) : Legible "svg".toList (measures size) := by
  have hnat {x : Char} (hx : x.isDigit = false) (n : Nat) : x ∉ Text.ofNat n := Text.not_mem_ofNat hx n
  have hbox {x : Char} (hx : x.isDigit = false) (hz : x ∉ "0 0 ".toList) (hs : x ≠ ' ') :
      x ∉ "0 0 ".toList ++ Text.ofNat size.width.toNat ++ ' ' :: Text.ofNat size.height.toNat := by
    simp only [List.mem_append, List.mem_cons, not_or]
    exact ⟨⟨hz, hnat hx _⟩, hs, hnat hx _⟩
  refine ⟨by decide, List.cons_ne_nil _ _, ?_⟩
  refine List.forall_mem_cons.mpr ⟨legible (by decide) (by decide), ?_⟩
  refine List.forall_mem_cons.mpr ⟨legible (by decide) ⟨hnat rfl _, hnat rfl _⟩, ?_⟩
  refine List.forall_mem_cons.mpr ⟨legible (by decide) ⟨hnat rfl _, hnat rfl _⟩, ?_⟩
  refine List.forall_mem_singleton.mpr (legible (by decide) ?_)
  exact ⟨hbox rfl (by decide) (by decide), hbox rfl (by decide) (by decide)⟩

theorem legible_ground (c : Color) : Legible "rect".toList (("width".toList, "100%".toList) ::
    ("height".toList, "100%".toList) :: Attribute.paint c true) := by
  refine ⟨by decide, List.cons_ne_nil _ _, ?_⟩
  refine List.forall_mem_cons.mpr ⟨legible (by decide) (by decide), ?_⟩
  exact List.forall_mem_cons.mpr ⟨legible (by decide) (by decide), Attribute.legible_paint c true⟩

theorem header_injective : Function.Injective header := by
  intro size other h
  obtain ⟨-, hm⟩ := (legible_measures size).openTag_append_inj (legible_measures other) (by simp) (by simp) h
  obtain ⟨-, hm⟩ := List.cons.inj hm
  obtain ⟨hw, hm⟩ := List.cons.inj hm
  obtain ⟨hh, -⟩ := List.cons.inj hm
  have hwidth := Text.ofNat_injective (Prod.mk.inj hw).2
  have hheight := Text.ofNat_injective (Prod.mk.inj hh).2
  cases size
  cases other
  rw [Size.mk.injEq]
  exact ⟨UInt32.toNat_inj.mp hwidth, UInt32.toNat_inj.mp hheight⟩

theorem ground_injective : Function.Injective ground := by
  intro c d h
  obtain ⟨-, ha⟩ := (legible_ground c).openTag_append_inj (legible_ground d) (by simp) (by simp) h
  exact (Attribute.paint_inj (List.cons.inj (List.cons.inj ha).2).2).1

end Sheet

theorem Mark.element_injective : Function.Injective Mark.element := by
  intro m n h
  obtain ⟨hn, ha⟩ := m.legible.openTag_append_inj n.legible (by simp) (by simp) h
  exact Mark.eq_of_attributes hn ha

namespace Sheet

theorem newline_not_mem_lines (s : Sheet) : ∀ t ∈ s.lines, '\n' ∉ t := by
  have hheader : '\n' ∉ header s.size := (legible_measures s.size).newline_not_mem_tag (by decide)
  have hground : '\n' ∉ ground s.background := (legible_ground s.background).newline_not_mem_tag (by decide)
  have helement (m : Mark) : '\n' ∉ m.element := m.legible.newline_not_mem_tag (by decide)
  have hindent {u : Text} (hu : '\n' ∉ u) : '\n' ∉ "  ".toList ++ u := List.not_mem_append (by decide) hu
  intro t ht
  rcases List.mem_append.mp ht with ht | ht
  · obtain rfl | ht := List.mem_cons.mp ht
    · exact hheader
    · obtain ⟨u, hu, rfl⟩ := List.mem_map.mp ht
      obtain rfl | hu := List.mem_cons.mp hu
      · exact hindent hground
      · obtain ⟨m, -, rfl⟩ := List.mem_map.mp hu
        exact hindent (helement m)
  · rw [List.mem_singleton.mp ht]
    decide

@[simp] theorem splitOn_document (s : Sheet) : s.document.splitOn '\n' = s.lines ++ [[]] :=
  Text.splitOn_flatMap_line s.newline_not_mem_lines

theorem document_injective : Function.Injective document := by
  intro s t h
  have hlines : s.lines = t.lines := by
    have hsplit : s.lines ++ [[]] = t.lines ++ [[]] := by rw [← splitOn_document, h, splitOn_document]
    exact List.append_cancel_right hsplit
  obtain ⟨hheader, hrest⟩ := List.cons.inj (List.append_cancel_right hlines)
  obtain ⟨hground, helements⟩ := List.cons.inj (List.map_injective_iff.mpr (List.append_right_injective _) hrest)
  have hmarks : s.marks = t.marks := List.map_injective_iff.mpr Mark.element_injective helements
  cases s
  cases t
  rw [Sheet.mk.injEq]
  exact ⟨header_injective hheader, ground_injective hground, hmarks⟩

theorem foldl_apply (calls : List Operation) (size : Size) (initial : Color) :
    calls.foldl apply (blank size initial) = Record.sheet size initial calls := by
  have h := Canvas.sheet_foldl_apply (.blank size initial) calls
  rw [Canvas.foldl_apply] at h
  exact h.symm

/-- Whatever was called for, the documents of two sheets are equal just if the sheets have the same size and ground, and
the calls since the last clear have left the same marks, in the same order. There is a line for each mark and for the
header, the ground and the end, and each of them ends with a line feed. -/
theorem document_eq_iff (size other : Size) (initial first : Color) (calls more : List Operation) :
    let s := calls.foldl apply (blank size initial)
    let t := more.foldl apply (blank other first)
    (s.document = t.document ↔
        size = other ∧ s.background = t.background ∧ Record.marks calls = Record.marks more) ∧
      s.document.splitOn '\n' =
        header size :: ("  ".toList ++ ground s.background) ::
          (Record.marks calls).map (fun m => "  ".toList ++ m.element) ++ ["</svg>".toList, []] ∧
      s.document.count '\n' = s.marks.length + 3 := by
  intro s t
  have hs : s = Record.sheet size initial calls := foldl_apply calls size initial
  have ht : t = Record.sheet other first more := foldl_apply more other first
  refine ⟨?_, ?_, ?_⟩
  · rw [hs, ht, document_injective.eq_iff, Record.sheet, Record.sheet, Sheet.mk.injEq]
  · rw [splitOn_document, hs, lines, Record.sheet, List.append_assoc, List.map_cons, List.map_map]
    rfl
  · have hcount := Text.length_splitOn '\n' s.document
    have hlines : s.lines.length = s.marks.length + 3 := by simp [lines]
    rw [splitOn_document, List.length_append, hlines] at hcount
    exact (Nat.add_right_cancel hcount).symm

end Sheet

end Plotter
