import Mathlib.Data.List.TakeDrop
import Plotter.Number.Notation
import Plotter.Proofs.Text.Words

namespace Plotter

open Text (isGraphic Graphic)

variable {t rest : Text}

theorem isGraphic_of_isDigit {c : Char} (h : c.isDigit) : isGraphic c := by
  simp only [Char.isDigit, Bool.and_eq_true, decide_eq_true_eq, ge_iff_le, UInt32.le_iff_toNat_le] at h
  have hc : 48 ≤ c.toNat ∧ c.toNat ≤ 57 := h
  simp only [isGraphic, Bool.and_eq_true, decide_eq_true_eq]
  omega

theorem takeSign_cases (t : Text) :
    t = (takeSign t).2 ∨ t = '-' :: (takeSign t).2 ∨ t = '+' :: (takeSign t).2 := by
  rcases t with _ | ⟨c, t⟩
  · exact .inl rfl
  · by_cases hm : c = '-'
    · subst hm
      exact .inr (.inl rfl)
    · by_cases hp : c = '+'
      · subst hp
        exact .inr (.inr rfl)
      · exact .inl (by simp [takeSign, hm, hp])

theorem all_graphic_of_takeSign (h : ∀ c ∈ (takeSign t).2, isGraphic c) : ∀ c ∈ t, isGraphic c := by
  intro c hc
  rcases takeSign_cases t with he | he | he <;> rw [he] at hc
  · exact h c hc
  · rcases List.mem_cons.mp hc with rfl | hc
    · rfl
    · exact h c hc
  · rcases List.mem_cons.mp hc with rfl | hc
    · rfl
    · exact h c hc

namespace Decimal

theorem all_digits_of_readDigits? {n : Nat} (h : readDigits? t = some n) : ∀ c ∈ t, isGraphic c := by
  rw [readDigits?] at h
  split at h
  next hd => exact fun c hc => isGraphic_of_isDigit (List.all_eq_true.mp hd.2 c hc)
  next => cases h

theorem all_graphic_of_readExponent? {e : Int} (h : readExponent? t = some e) : ∀ c ∈ t, isGraphic c := by
  cases t with
  | nil => simp
  | cons c rest =>
      rw [readExponent?] at h
      split at h
      next he =>
        cases hn : readDigits? (takeSign rest).2 with
        | none => simp [hn] at h
        | some n =>
            have hrest := all_graphic_of_takeSign (all_digits_of_readDigits? hn)
            intro d hd
            rcases List.mem_cons.mp hd with rfl | hd
            · rcases he with rfl | rfl <;> rfl
            · exact hrest d hd
      next => cases h

theorem all_digits_of_span : ∀ c ∈ (t.span Char.isDigit).1, isGraphic c := by
  rw [List.span_eq_takeWhile_dropWhile]
  exact fun c hc => isGraphic_of_isDigit (List.all_eq_true.mp List.all_takeWhile c hc)

theorem span_append (t : Text) : (t.span Char.isDigit).1 ++ (t.span Char.isDigit).2 = t := by
  rw [List.span_eq_takeWhile_dropWhile]
  exact List.takeWhile_append_dropWhile

theorem all_graphic_of_takeFraction (h : ∀ c ∈ (takeFraction t).2, isGraphic c) : ∀ c ∈ t, isGraphic c := by
  rcases t with _ | ⟨p, t⟩
  · simp
  · by_cases hp : p = '.'
    · subst hp
      change ∀ c ∈ (t.span Char.isDigit).2, isGraphic c at h
      intro c hc
      rcases List.mem_cons.mp hc with rfl | hc
      · rfl
      · rw [← span_append t] at hc
        rcases List.mem_append.mp hc with hc | hc
        · exact all_digits_of_span c hc
        · exact h c hc
    · have he : takeFraction (p :: t) = ([], p :: t) := by simp [takeFraction, hp]
      rwa [he] at h

theorem graphic_of_read? {d : Decimal} (h : read? t = some d) : t.Graphic := by
  simp only [read?] at h
  split at h
  · cases h
  next hne =>
    obtain ⟨e, he, -⟩ := Option.map_eq_some_iff.mp h
    constructor
    · rintro rfl
      exact hne rfl
    · have hafter := all_graphic_of_takeFraction (all_graphic_of_readExponent? he)
      intro c hc
      rw [← span_append t] at hc
      rcases List.mem_append.mp hc with hc | hc
      · exact all_digits_of_span c hc
      · exact hafter c hc

end Decimal

namespace Number

variable {n : Number}

theorem not_finite_of_ofWord? {negative : Bool} (h : ofWord? negative t = some n) : n.isFinite = false := by
  rw [ofWord?] at h
  split at h
  · cases h; rfl
  · split at h
    · cases h; rfl
    · cases h

theorem graphic_of_read? (h : read? t = some n) (hf : n.isFinite) : t.Graphic := by
  simp only [read?, Option.or_eq_some_iff] at h
  obtain hw | ⟨-, hd⟩ := h
  · simp [not_finite_of_ofWord? hw] at hf
  · obtain ⟨d, hd, -⟩ := Option.map_eq_some_iff.mp hd
    obtain ⟨hne, hall⟩ := Decimal.graphic_of_read? hd
    refine ⟨?_, all_graphic_of_takeSign hall⟩
    rintro rfl
    exact hne rfl

end Number

end Plotter
