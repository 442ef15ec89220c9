import Plotter.Proofs.Command.Grammar
import Plotter.Proofs.Number.Notation
import Plotter.Proofs.Text.Trimming

namespace Plotter

theorem Keyword.graphic_text (k : Keyword) : k.text.Graphic := by cases k <;> decide

theorem Switch.graphic_text (on : Bool) : (Switch.text on).Graphic := by cases on <;> decide

theorem ArgumentKind.Means.graphic {kind : ArgumentKind} {token : Text} {value : kind.Value}
    (h : kind.Means token value) : token.Graphic := by
  cases kind with
  | number => exact Number.graphic_of_read? h.1 h.2
  | color => exact (NamedColor.graphic_name h.1).sameWord h.2
  | switch => exact (Switch.graphic_text value).sameWord h

theorem Arguments.Mean.graphic {kinds : List ArgumentKind} {tokens : List Text} {values : Arguments kinds}
    (h : Arguments.Mean kinds tokens values) : ∀ t ∈ tokens, t.Graphic := by
  induction kinds generalizing tokens with
  | nil => simp [List.length_eq_zero_iff.mp h.length_eq]
  | cons kind kinds ih =>
      obtain ⟨token, tokens, rfl⟩ := List.exists_cons_of_length_eq_add_one h.length_eq
      intro t ht
      rcases List.mem_cons.mp ht with rfl | ht
      · exact h.1.graphic
      · exact ih h.2 t ht

/-- All characters of a line that is read are graphic or spaces, and it starts and ends with graphic ones. -/
structure Text.Clean (t : Text) : Prop where
  ne_nil : t ≠ []
  graphic : ∀ c ∈ t, c = ' ' ∨ Text.isGraphic c
  head : ∀ c ∈ t.head?, Text.isGraphic c
  last : ∀ c ∈ t.getLast?, Text.isGraphic c

namespace Text

variable {t : Text}

theorem clean_of_pieces (h : ∀ p ∈ t.splitOn ' ', Graphic p) : t.Clean := by
  obtain ⟨word, tokens, hs⟩ := List.exists_cons_of_ne_nil (List.splitOn_ne_nil ' ' t)
  have hj : t = join ' ' (word :: tokens) := by rw [← hs, join_splitOn]
  have hw : Graphic word := h word (hs ▸ List.mem_cons_self)
  rw [hs] at h
  constructor
  · rw [hj]
    exact join_ne_nil hw.1 tokens
  · intro c hc
    rw [hj] at hc
    obtain hc | ⟨p, hp, hc⟩ := mem_join hc
    · exact .inl hc
    · exact .inr ((h p hp).2 c hc)
  · intro c hc
    rw [hj, head?_join hw.1] at hc
    exact hw.2 c (List.mem_of_mem_head? hc)
  · intro c hc
    rw [hj] at hc
    obtain ⟨p, hp, hc⟩ := mem_of_getLast?_join (fun p hp => (h p hp).1) hc
    exact (h p hp).2 c hc

theorem Clean.trim_eq (h : t.Clean) : t.trim = t :=
  trim_eq_self (fun c hc => isBlank_of_isGraphic (h.head c hc)) fun c hc => isBlank_of_isGraphic (h.last c hc)

theorem Clean.newline_not_mem (h : t.Clean) : '\n' ∉ t := by
  intro hc
  obtain he | hg := h.graphic '\n' hc
  · cases he
  · cases hg

end Text

namespace Command

variable {line : Text} {c : Command}

theorem graphic_of_read (h : read line = .ok c) : ∀ t ∈ line.splitOn ' ', Text.Graphic t := by
  obtain ⟨word, tokens, hs⟩ : ∃ word tokens, line.splitOn ' ' = word :: tokens :=
    List.exists_cons_of_ne_nil (List.splitOn_ne_nil ' ' line)
  have ho := (read_eq_iff_outcome hs).mp h
  rw [hs]
  cases ho with
  | command hk hm =>
      intro t ht
      rcases List.mem_cons.mp ht with rfl | ht
      · exact (Keyword.graphic_text _).sameWord hk
      · exact hm.graphic t ht

theorem clean_of_read (h : read line = .ok c) : line.Clean := Text.clean_of_pieces (graphic_of_read h)

theorem head?_ne_colon_of_read (h : read line = .ok c) : line.head? ≠ some ':' := by
  obtain ⟨word, tokens, hs⟩ := List.exists_cons_of_ne_nil (List.splitOn_ne_nil ' ' line)
  have hline : line = Text.join ' ' (word :: tokens) := by rw [← hs, Text.join_splitOn]
  have ho := (read_eq_iff_outcome hs).mp h
  cases ho with
  | command hk hm =>
      intro hc
      rw [hline, Text.head?_join (Keyword.word_ne_nil hk)] at hc
      have hhead : c.keyword.text.lower.head? = some ':' := by
        rw [hk.lower_eq, Text.lower, List.head?_map, hc]
        rfl
      revert hhead
      cases c.keyword <;> decide

end Command

end Plotter
