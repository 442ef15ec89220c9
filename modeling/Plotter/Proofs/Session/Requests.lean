import Mathlib.Data.List.Basic
import Mathlib.Data.List.TakeDrop
import Plotter.Proofs.Text.Words
import Plotter.Proofs.Text.Trimming
import Plotter.Session

namespace Plotter

open Text (trim trimEnd isBlank)

namespace Request

def typed (name argument : Text) : Text := ':' :: name ++ ' ' :: argument

variable {name : Text}

theorem ne_space (h : ' ' ∉ name) : ∀ c ∈ name, decide (c ≠ ' ') = true := by
  intro c hc
  rw [decide_eq_true_eq]
  rintro rfl
  exact h hc

theorem read_name (h : ' ' ∉ name) : read name = ofName name [] := by
  have hspan : name.span (· ≠ ' ') = (name, []) := by
    rw [List.span_eq_takeWhile_dropWhile, List.takeWhile_eq_self_iff.mpr (ne_space h),
      List.dropWhile_eq_nil_iff.mpr (ne_space h)]
  rw [read, hspan]
  rfl

theorem read_append (h : ' ' ∉ name) (argument : Text) :
    read (name ++ ' ' :: argument) = ofName name (trim argument) := by
  have hspan : (name ++ ' ' :: argument).span (· ≠ ' ') = (name, ' ' :: argument) := by
    rw [List.span_eq_takeWhile_dropWhile, List.takeWhile_append_of_pos (ne_space h),
      List.dropWhile_append_of_pos (ne_space h)]
    simp
  rw [read, hspan]
  rfl

end Request

namespace Input

variable {line rest name : Text}

theorem read_of_trim (h : trim line = ':' :: rest) : Input.read line = .request (Request.read rest) := by
  rw [Input.read, h]
  rfl

theorem read_typed (h : name.Graphic) (argument : Text) :
    Input.read (Request.typed name argument) = .request (Request.ofName name (trim argument)) := by
  have hspace : ' ' ∉ name := h.not_mem_of_isGraphic_eq_false rfl
  have hcolon (t : Text) : ∀ c ∈ (':' :: t).head?, isBlank c = false := by
    rintro c ⟨⟩
    rfl
  by_cases hp : trimEnd argument = []
  · have hblank : ∀ c ∈ argument, isBlank c := Text.trimEnd_eq_nil_iff.mp hp
    have hrest : ∀ c ∈ ' ' :: argument, isBlank c := List.forall_mem_cons.mpr ⟨rfl, hblank⟩
    have hlast : ∀ c ∈ (':' :: name).getLast?, isBlank c = false := by
      intro c hc
      rw [List.getLast?_cons_of_ne_nil h.1] at hc
      exact Text.isBlank_of_isGraphic (h.2 c (List.mem_of_mem_getLast? hc))
    have htrim : trim (':' :: name ++ ' ' :: argument) = ':' :: name := by
      rw [Text.trim_append_blanks hrest, Text.trim_eq_self (hcolon name) hlast]
    rw [Request.typed, read_of_trim htrim, Request.read_name hspace, Text.trim_blanks hblank]
  · obtain ⟨blanks, harg, hb⟩ := Text.exists_blanks argument
    have hline : ':' :: name ++ ' ' :: argument = (':' :: name ++ ' ' :: trimEnd argument) ++ blanks := by
      rw [List.append_assoc, List.cons_append (a := ' '), ← harg]
    have hlast : ∀ c ∈ (':' :: name ++ ' ' :: trimEnd argument).getLast?, isBlank c = false := by
      intro c hc
      rw [List.getLast?_append_cons, List.getLast?_cons_of_ne_nil hp] at hc
      exact Text.not_blank_of_getLast?_trimEnd hc
    have htrim : trim (':' :: name ++ ' ' :: argument) = ':' :: (name ++ ' ' :: trimEnd argument) := by
      rw [hline, Text.trim_append_blanks hb]
      exact Text.trim_eq_self (hcolon _) hlast
    rw [Request.typed, read_of_trim htrim, Request.read_append hspace, Text.trim_trimEnd]

end Input

end Plotter
