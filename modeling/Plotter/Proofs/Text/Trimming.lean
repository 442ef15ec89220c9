import Mathlib.Data.List.TakeWhile
import Plotter.Text

namespace Plotter.Text

variable {c : Char} {s t blanks : Text}

@[simp] theorem trimStart_eq_nil_iff : trimStart t = [] ↔ ∀ c ∈ t, isBlank c := List.dropWhile_eq_nil_iff

@[simp] theorem trimEnd_eq_nil_iff : trimEnd t = [] ↔ ∀ c ∈ t, isBlank c := by
  rw [trimEnd, List.reverse_eq_nil_iff, trimStart_eq_nil_iff]
  simp

theorem trimStart_append (s t : Text) :
    trimStart (s ++ t) = if trimStart s = [] then trimStart t else trimStart s ++ t := by
  simp only [trimStart, List.dropWhile_append, List.isEmpty_iff]
  congr

theorem trimEnd_append (s t : Text) :
    trimEnd (s ++ t) = if trimEnd t = [] then trimEnd s else s ++ trimEnd t := by
  rw [trimEnd, List.reverse_append, trimStart_append]
  by_cases h : trimStart t.reverse = []
  · simp [trimEnd, h]
  · simp [trimEnd, h]

theorem trimStart_eq_self (h : ∀ c ∈ t.head?, isBlank c = false) : trimStart t = t := by
  cases t with
  | nil => rfl
  | cons c t => exact List.dropWhile_cons_of_neg (by simp [h c rfl])

theorem trimEnd_eq_self (h : ∀ c ∈ t.getLast?, isBlank c = false) : trimEnd t = t := by
  rw [trimEnd, trimStart_eq_self (by simpa using h), List.reverse_reverse]

theorem trim_eq_self (hs : ∀ c ∈ t.head?, isBlank c = false) (he : ∀ c ∈ t.getLast?, isBlank c = false) :
    trim t = t := by
  rw [trim, trimStart_eq_self hs, trimEnd_eq_self he]

theorem trim_append_blanks (h : ∀ c ∈ blanks, isBlank c) (t : Text) : trim (t ++ blanks) = trim t := by
  have hs : trimStart blanks = [] := trimStart_eq_nil_iff.mpr h
  have he : trimEnd blanks = [] := trimEnd_eq_nil_iff.mpr h
  rw [trim, trim, trimStart_append]
  split
  next ht => rw [hs, ht]
  next => rw [trimEnd_append, if_pos he]

theorem trim_blanks_append (h : ∀ c ∈ blanks, isBlank c) (t : Text) : trim (blanks ++ t) = trim t := by
  rw [trim, trim, trimStart_append, if_pos (trimStart_eq_nil_iff.mpr h)]

theorem exists_blanks (t : Text) : ∃ blanks, t = trimEnd t ++ blanks ∧ ∀ c ∈ blanks, isBlank c := by
  refine ⟨(t.reverse.takeWhile isBlank).reverse, ?_, ?_⟩
  · rw [trimEnd, trimStart, ← List.reverse_append, List.takeWhile_append_dropWhile, List.reverse_reverse]
  · intro c hc
    exact List.all_eq_true.mp List.all_takeWhile c (List.mem_reverse.mp hc)

theorem not_blank_of_getLast?_trimEnd (h : c ∈ (trimEnd t).getLast?) : isBlank c = false := by
  have hd := List.head?_dropWhile_not isBlank t.reverse
  rw [trimEnd, List.getLast?_reverse] at h
  rwa [← trimStart, h] at hd

theorem trim_blanks (h : ∀ c ∈ t, isBlank c) : trim t = [] := trim_append_blanks h []

@[simp] theorem trim_trimEnd (t : Text) : trim (trimEnd t) = trim t := by
  obtain ⟨blanks, ht, hb⟩ := exists_blanks t
  calc trim (trimEnd t) = trim (trimEnd t ++ blanks) := (trim_append_blanks hb _).symm
    _ = trim t := by rw [← ht]

end Plotter.Text
