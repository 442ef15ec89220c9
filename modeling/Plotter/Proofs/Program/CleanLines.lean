import Plotter.Proofs.Program.Accepted
import Plotter.Proofs.Program.Composition
import Plotter.Proofs.Program.Layout

namespace Plotter

/-- A line that stands for itself: it is printable, its words are one space apart, it is no request, and as a source
text it is its own first and only line. -/
structure Text.Tidy (t : Text) : Prop where
  printable : ∀ c ∈ t, 0x20 ≤ c.toNat ∧ c.toNat ≤ 0x7E
  blank : ∀ c ∈ t, Text.isBlank c → c = ' '
  words : ∀ word ∈ t.splitOn ' ', word ≠ []
  head : t.head? ≠ some ':'
  trimmed : t.trim = t
  line : Line.ofSource t = [⟨1, t⟩]

namespace Line

variable {ts : List Text} {t : Text}

theorem ofSource_join_of_clean (h : ∀ t ∈ ts, Text.Clean t) : ofSource (Text.join '\n' ts) = counted 1 ts := by
  by_cases hts : ts = []
  · rw [hts]
    rfl
  · rw [ofSource_join hts fun t ht => (h t ht).newline_not_mem, numbered_of_clean h]

theorem ofSource_of_clean (h : t.Clean) : ofSource t = [⟨1, t⟩] := by
  have hline := ofSource_join_of_clean (List.forall_mem_singleton.mpr h)
  rwa [Text.join_singleton] at hline

theorem ofSource_line (source : Text) : ofSource source.line = ofSource source := by
  have hempty : ofSource [] = [] := rfl
  rw [Text.line, ofSource_append, hempty, List.map_nil, List.append_nil]

end Line

namespace Text

variable {t : Text}

theorem Clean.printable (h : t.Clean) : ∀ c ∈ t, 0x20 ≤ c.toNat ∧ c.toNat ≤ 0x7E := by
  intro c hc
  obtain rfl | hg := h.graphic c hc
  · decide
  · simp only [isGraphic, Bool.and_eq_true, decide_eq_true_eq] at hg
    exact ⟨Nat.le_of_succ_le hg.1, hg.2⟩

theorem Clean.eq_space (h : t.Clean) : ∀ c ∈ t, isBlank c → c = ' ' := by
  intro c hc hb
  obtain he | hg := h.graphic c hc
  · exact he
  · rw [isBlank_of_isGraphic hg] at hb
    cases hb

end Text

theorem Command.tidy_of_read {t : Text} {c : Command} (h : read t = .ok c) : t.Tidy where
  printable := (clean_of_read h).printable
  blank := (clean_of_read h).eq_space
  words word hw := (graphic_of_read h word hw).1
  head := head?_ne_colon_of_read h
  trimmed := (clean_of_read h).trim_eq
  line := Line.ofSource_of_clean (clean_of_read h)

/-- Each accepted line stands for itself. A program that is made of some by line feeds between them, whether or not
one more comes last, has these lines and no others. -/
theorem accepted_lines {ts : List Text} (h : ∀ t ∈ ts, ∃ c, Command.read t = .ok c) :
    (∀ t ∈ ts, t.Tidy) ∧
    Line.ofSource (Text.join '\n' ts) = Line.counted 1 ts ∧
    Line.ofSource (Text.join '\n' ts).line = Line.counted 1 ts := by
  have hclean : ∀ t ∈ ts, Text.Clean t := by
    intro t ht
    obtain ⟨c, hc⟩ := h t ht
    exact Command.clean_of_read hc
  have hlines := Line.ofSource_join_of_clean hclean
  refine ⟨?_, hlines, (Line.ofSource_line _).trans hlines⟩
  intro t ht
  obtain ⟨c, hc⟩ := h t ht
  exact Command.tidy_of_read hc

theorem accepted_lines_circle :
    let ts := ["MoveTo 1e2 -0.5".toList, "circle 3".toList]
    (∀ t ∈ ts, ∃ c, Command.read t = .ok c) ∧ (∀ t ∈ ts, Text.Tidy t) ∧
      Line.ofSource "MoveTo 1e2 -0.5\ncircle 3\n".toList =
        [⟨1, "MoveTo 1e2 -0.5".toList⟩, ⟨2, "circle 3".toList⟩] := by
  intro ts
  have hread : ∀ t ∈ ts, ∃ c, Command.read t = .ok c := by
    have hok : ∀ t ∈ ts, (Command.read t).isOk := by decide +kernel
    intro t ht
    cases hc : Command.read t with
    | error e => exact absurd (hok t ht) (by simp [hc, Except.isOk, Except.toBool])
    | ok c => exact ⟨c, rfl⟩
  obtain ⟨htidy, -, hlines⟩ := accepted_lines hread
  exact ⟨hread, htidy, hlines⟩

end Plotter
