import Mathlib.Data.List.Forall2
import Plotter.Proofs.Text.Words

namespace Plotter.Text

variable {c d : Char} {s t : Text}

theorem isDigit_eq (c : Char) : c.isDigit = decide (48 ≤ c.toNat ∧ c.toNat ≤ 57) := by
  rw [Bool.decide_and]
  rfl

theorem isDigit_ofNat (n : Nat) : ∀ c ∈ ofNat n, c.isDigit :=
  fun _ hc => Nat.isDigit_of_mem_toDigits (by decide) (by decide) hc

theorem not_mem_ofNat (h : c.isDigit = false) (n : Nat) : c ∉ ofNat n := by
  intro hc
  rw [isDigit_ofNat n c hc] at h
  cases h

theorem ofNat_injective : Function.Injective ofNat :=
  fun m n h => by rw [← Nat.ofDigitChars_ten_toDigits (n := m), ← ofNat, h, ofNat, Nat.ofDigitChars_ten_toDigits]

theorem isAlpha_eq (c : Char) :
    c.isAlpha = decide (65 ≤ c.toNat ∧ c.toNat ≤ 90 ∨ 97 ≤ c.toNat ∧ c.toNat ≤ 122) := by
  rw [Bool.decide_or, Bool.decide_and (p := 97 ≤ c.toNat)]
  rfl

theorem isGraphic_of_isAlpha (h : c.isAlpha) : isGraphic c := by
  rw [isAlpha_eq, decide_eq_true_eq] at h
  simp only [isGraphic, Bool.and_eq_true, decide_eq_true_eq]
  omega

theorem toLower_eq_iff (h : d.isAlpha = false) : c.toLower = d ↔ c = d := by
  rw [isAlpha_eq, decide_eq_false_iff_not] at h
  rw [← Char.toNat_inj, ← Char.toNat_inj, toNat_toLower]
  split <;> omega

@[simp] theorem isDigit_toLower (c : Char) : c.toLower.isDigit = c.isDigit := by
  rw [isDigit_eq, isDigit_eq, toNat_toLower, decide_eq_decide]
  split <;> omega

theorem isAlpha_of_isDigit (h : c.isDigit) : c.isAlpha = false := by
  rw [isDigit_eq, decide_eq_true_eq] at h
  rw [isAlpha_eq, decide_eq_false_iff_not]
  omega

theorem toLower_of_isDigit (h : c.isDigit) : c.toLower = c := (toLower_eq_iff (isAlpha_of_isDigit h)).mpr rfl

theorem splitOn_lower (hc : c.isAlpha = false) (t : Text) : (lower t).splitOn c = (t.splitOn c).map lower := by
  induction t with
  | nil => rfl
  | cons d t ih =>
      obtain ⟨p, ps, hp⟩ := List.exists_cons_of_ne_nil (List.splitOn_ne_nil c t)
      rw [lower_cons, List.splitOn_cons_eq_if_modifyHead, List.splitOn_cons_eq_if_modifyHead, ih, hp]
      have hlower : (d.toLower == c) = (d == c) := by
        rw [Bool.eq_iff_iff, beq_iff_eq, beq_iff_eq, toLower_eq_iff hc]
      rw [hlower]
      split
      · rfl
      · rfl

theorem forall₂_sameWord_iff {ss ts : List Text} : List.Forall₂ SameWord ss ts ↔ ss.map lower = ts.map lower := by
  rw [← List.forall₂_eq_eq_eq, List.forall₂_map_left_iff, List.forall₂_map_right_iff]
  rfl

theorem SameWord.splitOn (hc : c.isAlpha = false) (h : SameWord s t) :
    List.Forall₂ SameWord (s.splitOn c) (t.splitOn c) := by
  rw [forall₂_sameWord_iff, ← splitOn_lower hc, ← splitOn_lower hc, h.lower_eq]

end Plotter.Text
