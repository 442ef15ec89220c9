import Mathlib.Data.List.Nodup
import Plotter.Color
import Plotter.Proofs.Text.Letters

namespace Plotter.NamedColor

variable {m n : NamedColor} {word : Text}

/-- A word as one whole number, up to the case of its letters. -/
def fingerprint (word : Text) : Nat := word.lower.foldl (fun n c => 256 * n + c.toNat) 0

theorem fingerprint_eq {s t : Text} (h : s.SameWord t) : fingerprint s = fingerprint t := by
  rw [fingerprint, h.lower_eq, fingerprint]

-- Numbers are compared here in place of words, since comparing the words pair by pair takes long.
theorem palette_checked :
    (palette.map fun n => fingerprint n.name).Nodup ∧
      palette.all fun n => !n.name.isEmpty && n.name.all Char.isAlpha := by
  decide +kernel

theorem letters_name (h : n ∈ palette) : n.name ≠ [] ∧ ∀ c ∈ n.name, c.isAlpha := by
  have hn := List.all_eq_true.mp palette_checked.2 n h
  simpa using hn

theorem graphic_name (h : n ∈ palette) : n.name.Graphic := by
  obtain ⟨hne, halpha⟩ := letters_name h
  exact ⟨hne, fun c hc => Text.isGraphic_of_isAlpha (halpha c hc)⟩

theorem head?_name (h : n ∈ palette) {c : Char} (hc : c.isAlpha = false) : n.name.head? ≠ some c := by
  intro hhead
  rw [(letters_name h).2 c (List.mem_of_mem_head? hhead)] at hc
  cases hc

theorem palette_unique (hm : m ∈ palette) (hn : n ∈ palette) (h : m.name.SameWord n.name) : m = n :=
  List.inj_on_of_nodup_map palette_checked.1 hm hn (fingerprint_eq h)

theorem named?_eq_some_iff : named? word = some n ↔ n ∈ palette ∧ n.name.SameWord word :=
  Text.find?_eq_some_iff fun _ hm _ hn => palette_unique hm hn

end Plotter.NamedColor
