import Plotter.Proofs.Program.Composition
import Plotter.Proofs.Text.Trimming

namespace Plotter

open List (Forall₂)

namespace Text

/-- Blanks that may stand beside a line: they do not end it. -/
def Margin (t : Text) : Prop := ∀ c ∈ t, isBlank c ∧ c ≠ '\n'

instance (t : Text) : Decidable (Margin t) := List.decidableBAll (fun c => isBlank c ∧ c ≠ '\n') t

/-- The second text is the first one between two margins. -/
def Padded (t u : Text) : Prop := ∃ left right, Margin left ∧ Margin right ∧ u = left ++ t ++ right

def withReturns (t : Text) : Text := t.flatMap fun c => if c = '\n' then ['\r', '\n'] else [c]

variable {t u : Text} {ts us : List Text}

theorem Margin.newline_not_mem (h : Margin t) : '\n' ∉ t := fun hn => (h _ hn).2 rfl

theorem Margin.trim_eq_nil (h : Margin t) : t.trim = [] := trim_blanks fun c hc => (h c hc).1

theorem Padded.trim_eq (h : Padded t u) : u.trim = t.trim := by
  obtain ⟨left, right, hl, hr, rfl⟩ := h
  rw [trim_append_blanks fun c hc => (hr c hc).1, trim_blanks_append fun c hc => (hl c hc).1]

theorem Padded.newline_not_mem (h : Padded t u) (ht : '\n' ∉ t) : '\n' ∉ u := by
  obtain ⟨left, right, hl, hr, rfl⟩ := h
  simp [hl.newline_not_mem, hr.newline_not_mem, ht]

theorem map_trim_of_padded (h : Forall₂ Padded ts us) : us.map trim = ts.map trim := by
  induction h with
  | nil => rfl
  | cons h _ ih => rw [List.map_cons, List.map_cons, h.trim_eq, ih]

theorem newline_not_mem_of_padded (h : Forall₂ Padded ts us) (ht : ∀ t ∈ ts, '\n' ∉ t) : ∀ u ∈ us, '\n' ∉ u := by
  induction h with
  | nil => simp
  | cons h _ ih =>
      rw [List.forall_mem_cons] at ht ⊢
      obtain ⟨ht, hts⟩ := ht
      exact ⟨h.newline_not_mem ht, ih hts⟩

theorem trimEnd_cons_congr (c : Char) (h : trimEnd t = trimEnd u) : trimEnd (c :: t) = trimEnd (c :: u) := by
  have hc := trimEnd_append [c] t
  rw [h, ← trimEnd_append] at hc
  exact hc

theorem map_trimEnd_withReturns (t : Text) :
    ((withReturns t).splitOn '\n').map trimEnd = (t.splitOn '\n').map trimEnd := by
  induction t with
  | nil => rfl
  | cons c t ih =>
      obtain ⟨p, ps, hp⟩ := List.exists_cons_of_ne_nil (List.splitOn_ne_nil '\n' (withReturns t))
      obtain ⟨q, qs, hq⟩ := List.exists_cons_of_ne_nil (List.splitOn_ne_nil '\n' t)
      by_cases h : c = '\n'
      · subst h
        have hcons : withReturns ('\n' :: t) = '\r' :: '\n' :: withReturns t := rfl
        have hreturn : trimEnd ['\r'] = trimEnd [] := rfl
        rw [hcons]
        simp [List.splitOn_cons_eq_if_modifyHead, ih, hreturn]
      · have hcons : withReturns (c :: t) = c :: withReturns t := by simp [withReturns, h]
        rw [hp, hq, List.map_cons, List.map_cons, List.cons_eq_cons] at ih
        obtain ⟨hhead, htail⟩ := ih
        simp [hcons, List.splitOn_cons_eq_if_modifyHead, h, hp, hq, trimEnd_cons_congr c hhead, htail]

end Text

namespace Line

/-- The lines with further ones between them: a gap above each line, and below the last one all gaps left over. -/
def spread : List (List Text) → List Text → List Text
  | [], ts => ts
  | gap :: gaps, [] => gap ++ spread gaps []
  | gap :: gaps, t :: ts => gap ++ t :: spread gaps ts

variable {gap ts us : List Text} {gaps : List (List Text)} {t : Text} {n : Nat}

@[simp] theorem mem_spread : t ∈ spread gaps ts ↔ t ∈ gaps.flatten ∨ t ∈ ts := by
  fun_induction spread gaps ts with
  | case1 ts => simp
  | case2 gap gaps ih => simp [ih]
  | case3 gap gaps u ts ih =>
      rw [List.mem_append, List.mem_cons, ih, List.flatten_cons, List.mem_append, List.mem_cons]
      tauto

@[simp] theorem below_below (j k : Nat) (l : Line) : (l.below j).below k = l.below (k + j) := by
  rw [below, below, below, Nat.add_assoc, Nat.add_comm j k]

theorem numbered_congr (h : us.map Text.trim = ts.map Text.trim) : numbered n us = numbered n ts := by
  induction ts generalizing n us with
  | nil => rw [List.map_eq_nil_iff.mp h]
  | cons t ts ih =>
      obtain ⟨u, us, rfl, ht, hts⟩ := List.map_eq_cons_iff.mp h
      rw [numbered, numbered, ht, ih hts]

theorem numbered_blanks (h : ∀ t ∈ gap, t.trim = []) : numbered n gap = [] := by
  induction gap generalizing n with
  | nil => rfl
  | cons t gap ih =>
      obtain ⟨ht, hgap⟩ := List.forall_mem_cons.mp h
      rw [numbered, if_pos ht, ih hgap]

theorem numbered_gap_append (h : ∀ t ∈ gap, t.trim = []) (ts : List Text) :
    numbered n (gap ++ ts) = (numbered n ts).map (below gap.length) := by
  rw [numbered_append, numbered_blanks h, List.nil_append, numbered_add]

theorem numbered_spread (h : ∀ gap ∈ gaps, ∀ t ∈ gap, t.trim = []) :
    numbered n (spread gaps ts) =
      (numbered n ts).map fun l => l.below (gaps.take (l.number + 1 - n)).flatten.length := by
  -- The induction is on the gaps. All of the lines, the first included, go below the first gap.
  induction gaps generalizing n ts with
  | nil => simp [spread, below]
  | cons gap gaps ih =>
      obtain ⟨hgap, hgaps⟩ := List.forall_mem_cons.mp h
      cases ts with
      | nil =>
          rw [spread, numbered_gap_append hgap, ih hgaps]
          rfl
      | cons t ts =>
          have hlater : (numbered (n + 1) (spread gaps ts)).map (below gap.length) =
              (numbered (n + 1) ts).map fun l => l.below ((gap :: gaps).take (l.number + 1 - n)).flatten.length := by
            rw [ih hgaps, List.map_map]
            apply List.map_congr_left
            intro l hl
            have hnumber : n + 1 ≤ l.number := le_number (n + 1) ts l hl
            have hgaps : l.number + 1 - n = l.number + 1 - (n + 1) + 1 := by omega
            simp [hgaps]
          have hfirst : n + 1 - n = 1 := Nat.add_sub_cancel_left n 1
          rw [spread, numbered_gap_append hgap, numbered, numbered]
          split
          · exact hlater
          · rw [List.map_cons, List.map_cons, hlater]
            simp [hfirst]

theorem ofSource_join (hne : ts ≠ []) (h : ∀ t ∈ ts, '\n' ∉ t) : ofSource (Text.join '\n' ts) = numbered 1 ts := by
  rw [ofSource, Text.splitOn_join h hne]

theorem ofSource_withReturns (source : Text) : ofSource source.withReturns = ofSource source := by
  have htrim : Text.trim ∘ Text.trimEnd = Text.trim := funext Text.trim_trimEnd
  have hpieces := congrArg (List.map Text.trim) (Text.map_trimEnd_withReturns source)
  rw [List.map_map, List.map_map, htrim] at hpieces
  exact numbered_congr hpieces

theorem ofSource_padded {source : Text} (h : Forall₂ Text.Padded (source.splitOn '\n') ts) :
    ofSource (Text.join '\n' ts) = ofSource source := by
  have hne : ts ≠ [] := by
    rintro rfl
    exact List.splitOn_ne_nil '\n' source (List.forall₂_nil_right_iff.mp h)
  rw [ofSource_join hne (Text.newline_not_mem_of_padded h fun _ => Text.not_mem_of_mem_splitOn)]
  exact numbered_congr (Text.map_trim_of_padded h)

theorem ofSource_spread (source : Text) (h : ∀ gap ∈ gaps, ∀ t ∈ gap, Text.Margin t) :
    ofSource (Text.join '\n' (spread gaps (source.splitOn '\n'))) =
      (ofSource source).map fun l => l.below (gaps.take l.number).flatten.length := by
  obtain ⟨t, ht⟩ := List.exists_mem_of_ne_nil _ (List.splitOn_ne_nil '\n' source)
  have hne : spread gaps (source.splitOn '\n') ≠ [] := List.ne_nil_of_mem (mem_spread.mpr (.inr ht))
  have hnewline : ∀ t ∈ spread gaps (source.splitOn '\n'), '\n' ∉ t := by
    intro t ht
    obtain ht | ht := mem_spread.mp ht
    · obtain ⟨gap, hgap, ht⟩ := List.mem_flatten.mp ht
      exact (h gap hgap t ht).newline_not_mem
    · exact Text.not_mem_of_mem_splitOn ht
  rw [ofSource_join hne hnewline, numbered_spread fun gap hgap t ht => (h gap hgap t ht).trim_eq_nil]
  rfl

end Line

end Plotter
