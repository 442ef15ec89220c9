import Mathlib
import Plotter.Proofs.Number.Notation
import Plotter.Proofs.Text.Letters

namespace Plotter

open Text (lower)

theorem lower_eq_self_of_digits {t : Text} (h : ∀ c ∈ t, c.isDigit) : lower t = t := by
  calc t.map Char.toLower = t.map id := List.map_congr_left fun c hc => Text.toLower_of_isDigit (h c hc)
    _ = t := List.map_id t

@[simp] theorem takeSign_lower (t : Text) : takeSign (lower t) = ((takeSign t).1, lower (takeSign t).2) := by
  cases t with
  | nil => rfl
  | cons c t =>
      have hm : c.toLower = '-' ↔ c = '-' := Text.toLower_eq_iff rfl
      have hp : c.toLower = '+' ↔ c = '+' := Text.toLower_eq_iff rfl
      by_cases h : c = '-'
      · subst h
        rfl
      · by_cases h' : c = '+'
        · subst h'
          rfl
        · simp [takeSign, hm, hp, h, h']

namespace Decimal

theorem span_lower (t : Text) :
    (lower t).span Char.isDigit = ((t.span Char.isDigit).1, lower (t.span Char.isDigit).2) := by
  have hdigit : Char.isDigit ∘ Char.toLower = Char.isDigit := funext Text.isDigit_toLower
  have hdigits : lower (t.takeWhile Char.isDigit) = t.takeWhile Char.isDigit :=
    lower_eq_self_of_digits fun c hc => List.all_eq_true.mp List.all_takeWhile c hc
  rw [List.span_eq_takeWhile_dropWhile, List.span_eq_takeWhile_dropWhile, lower, List.takeWhile_map, List.dropWhile_map,
    hdigit, ← lower, hdigits, lower]

@[simp] theorem readDigits?_lower (t : Text) : readDigits? (lower t) = readDigits? t := by
  have hdigit : Char.isDigit ∘ Char.toLower = Char.isDigit := funext Text.isDigit_toLower
  rw [readDigits?, readDigits?]
  by_cases h : t.all Char.isDigit
  · rw [lower_eq_self_of_digits (List.all_eq_true.mp h)]
  · have h' : ¬ (lower t).all Char.isDigit := by rwa [lower, List.all_map, hdigit]
    rw [if_neg fun he => h' he.2, if_neg fun he => h he.2]

@[simp] theorem readExponent?_lower (t : Text) : readExponent? (lower t) = readExponent? t := by
  cases t with
  | nil => rfl
  | cons c t =>
      have he : (c.toLower = 'e' ∨ c.toLower = 'E') ↔ (c = 'e' ∨ c = 'E') := by
        rw [← Char.toNat_inj, ← Char.toNat_inj, ← Char.toNat_inj, ← Char.toNat_inj, Text.toNat_toLower]
        show _ = 101 ∨ _ = 69 ↔ c.toNat = 101 ∨ c.toNat = 69
        split <;> omega
      simp [readExponent?, he]

@[simp] theorem takeFraction_lower (t : Text) :
    takeFraction (lower t) = ((takeFraction t).1, lower (takeFraction t).2) := by
  cases t with
  | nil => rfl
  | cons c t =>
      have hp : c.toLower = '.' ↔ c = '.' := Text.toLower_eq_iff rfl
      by_cases h : c = '.'
      · subst h
        exact span_lower t
      · simp [takeFraction, hp, h]

@[simp] theorem read?_lower (t : Text) : read? (lower t) = read? t := by
  simp only [read?, span_lower, takeFraction_lower, readExponent?_lower]

end Decimal

namespace Number

@[simp] theorem ofWord?_lower (negative : Bool) (t : Text) : ofWord? negative (lower t) = ofWord? negative t := by
  have h (word : Text) : word.SameWord (lower t) ↔ word.SameWord t := by
    simp only [Text.SameWord, lower, List.map_map, Function.comp_def, Char.toLower_toLower_eq_toLower]
  simp only [ofWord?, h]

@[simp] theorem read?_lower (t : Text) : read? (lower t) = read? t := by
  simp [read?, ofDigits?]

theorem read?_sameWord {s t : Text} (h : s.SameWord t) : read? s = read? t := by
  rw [← read?_lower, h.lower_eq, read?_lower]

end Number

end Plotter
