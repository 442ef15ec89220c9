import Plotter.Text

namespace Plotter.Text

def isGraphic (c : Char) : Bool := 0x21 ≤ c.toNat && c.toNat ≤ 0x7E

def Graphic (t : Text) : Prop := t ≠ [] ∧ ∀ c ∈ t, isGraphic c

instance (t : Text) : Decidable (Graphic t) :=
  decidable_of_decidable_of_iff (p := t ≠ [] ∧ t.all isGraphic = true) (by rw [Graphic, List.all_eq_true])

variable {c : Char} {s t : Text}

@[simp] theorem lower_cons (c : Char) (t : Text) : lower (c :: t) = c.toLower :: lower t := rfl

theorem SameWord.lower_eq (h : SameWord s t) : lower s = lower t := h

theorem SameWord.eq_nil_iff (h : SameWord s t) : s = [] ↔ t = [] := by
  constructor
  · rintro rfl
    exact List.map_eq_nil_iff.mp h.symm
  · rintro rfl
    exact List.map_eq_nil_iff.mp h

theorem find?_eq_some_iff {α : Type} {table : List α} {name : α → Text} {a : α}
    (h : ∀ a ∈ table, ∀ b ∈ table, (name a).SameWord (name b) → a = b) :
    table.find? (fun b => (name b).SameWord t) = some a ↔ a ∈ table ∧ (name a).SameWord t := by
  constructor
  · intro hf
    exact ⟨List.mem_of_find?_eq_some hf, by simpa using List.find?_some hf⟩
  · rintro ⟨ha, hw⟩
    have hsome : (table.find? fun b => (name b).SameWord t).isSome := by
      rw [List.find?_isSome]
      exact ⟨a, ha, by simpa using hw⟩
    obtain ⟨b, hb⟩ := Option.isSome_iff_exists.mp hsome
    have hbw : (name b).SameWord t := by simpa using List.find?_some hb
    rw [hb, h b (List.mem_of_find?_eq_some hb) a ha (hbw.trans hw.symm)]

theorem toNat_toLower (c : Char) :
    c.toLower.toNat = if 65 ≤ c.toNat ∧ c.toNat ≤ 90 then c.toNat + 32 else c.toNat := by
  delta Char.toLower
  split
  next h =>
    have hc : 65 ≤ c.toNat ∧ c.toNat ≤ 90 := h
    have hv : (c.val + ('a'.val - 'A'.val)).toNat = (c.toNat + 32) % 4294967296 := UInt32.toNat_add ..
    rw [if_pos hc, Char.toNat, hv]
    exact Nat.mod_eq_of_lt (by omega)
  next h =>
    have hc : ¬ (65 ≤ c.toNat ∧ c.toNat ≤ 90) := h
    rw [if_neg hc]

@[simp] theorem isGraphic_toLower (c : Char) : isGraphic c.toLower = isGraphic c := by
  rw [isGraphic, isGraphic, toNat_toLower, ← Bool.decide_and, ← Bool.decide_and, decide_eq_decide]
  split <;> omega

theorem Graphic.sameWord (h : Graphic s) (hst : SameWord s t) : Graphic t := by
  obtain ⟨hne, hs⟩ := h
  have hmap : s.map Char.toLower = t.map Char.toLower := hst
  constructor
  · intro ht
    exact hne (hst.eq_nil_iff.mpr ht)
  · intro c hc
    have hmem : c.toLower ∈ s.map Char.toLower := hmap ▸ List.mem_map_of_mem hc
    obtain ⟨d, hd, he⟩ := List.mem_map.mp hmem
    rw [← isGraphic_toLower, ← he, isGraphic_toLower]
    exact hs d hd

theorem isBlank_of_isGraphic (h : isGraphic c) : isBlank c = false := by
  simp only [isGraphic, Bool.and_eq_true, decide_eq_true_eq] at h
  simp only [isBlank, blankRuns, List.any_cons, List.any_nil, Bool.or_false, Bool.or_eq_false_iff,
    Bool.and_eq_false_iff, decide_eq_false_iff_not]
  omega

theorem Graphic.not_mem_of_isGraphic_eq_false (h : Graphic t) (hc : isGraphic c = false) : c ∉ t := by
  intro hmem
  simp [h.2 c hmem] at hc

end Plotter.Text
