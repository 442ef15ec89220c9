import Plotter.Proofs.Drawing.Drawn
import Plotter.Proofs.Drawing.LastWriter
import Plotter.Proofs.Drawing.Record
import Plotter.Proofs.Program.Accepted
import Plotter.Proofs.Text.Pieces

namespace Plotter

/-- Leaves out what some clear comes after, unless it is to be kept. -/
def shorten {α : Type} (clears keeps : α → Bool) : List α → List α
  | [] => []
  | a :: as => if as.any clears && !keeps a then shorten clears keeps as else a :: shorten clears keeps as

section

variable {α : Type} {clears keeps : α → Bool} {as : List α}

theorem shorten_eq_self (h : as.any clears = false) : shorten clears keeps as = as := by
  induction as with
  | nil => rfl
  | cons a as ih =>
      rw [List.any_cons, Bool.or_eq_false_iff] at h
      rw [shorten, h.2, ih h.2]
      rfl

theorem shorten_ne_nil (h : as ≠ []) : shorten clears keeps as ≠ [] := by
  induction as with
  | nil => exact absurd rfl h
  | cons a as ih =>
      rw [shorten]
      split
      next hc =>
        apply ih
        rintro rfl
        simp at hc
      next => exact List.cons_ne_nil _ _

theorem mem_of_mem_shorten {a : α} (h : a ∈ shorten clears keeps as) : a ∈ as := by
  induction as with
  | nil => exact h
  | cons b as ih =>
      rw [shorten] at h
      split at h
      · exact List.mem_cons_of_mem _ (ih h)
      · rcases List.mem_cons.mp h with rfl | h
        · exact List.mem_cons_self
        · exact List.mem_cons_of_mem _ (ih h)

theorem shorten_eq (keeps : α → Bool) (h : as.any clears) :
    ∃ before a after, as = before ++ a :: after ∧ clears a ∧ after.any clears = false ∧
      shorten clears keeps as = before.filter keeps ++ a :: after := by
  induction as with
  | nil => cases h
  | cons b as ih =>
      cases hc : as.any clears with
      | false =>
          have hb : clears b := by simpa [hc] using h
          refine ⟨[], b, as, rfl, hb, hc, ?_⟩
          rw [shorten, hc, shorten_eq_self hc]
          rfl
      | true =>
          obtain ⟨before, a, after, rfl, ha, hafter, hs⟩ := ih hc
          refine ⟨b :: before, a, after, rfl, ha, hafter, ?_⟩
          rw [shorten, hc, hs, List.filter_cons]
          cases keeps b <;> rfl

end

namespace Command

def isClear (c : Command) : Bool := c = clear

/-- Sets what a clear leaves alone. -/
def isSetting : Command → Bool
  | color _ | fill _ => true
  | moveTo _ | drawTo _ | clear | rectangle _ _ | circle _ | triangle _ _ _ | reset => false

def holds (sort : Command → Bool) (line : Text) : Bool :=
  match read line.trim with
  | .ok c => sort c
  | .error _ => false

variable {sort : Command → Bool} {t : Text} {ts : List Text} {c : Command} {cs : List Command}

theorem holds_of_read (h : read t.trim = .ok c) : holds sort t = sort c := by rw [holds, h]

theorem holds_blank (h : t.trim = []) : holds sort t = false := by
  rw [holds, h]
  rfl

theorem any_holds (h : AllRead (Line.texts ts) cs) : ts.any (holds sort) = cs.any sort := by
  induction ts generalizing cs with
  | nil =>
      cases h
      rfl
  | cons t ts ih =>
      by_cases hb : t.trim = []
      · rw [Line.texts_cons_blank hb] at h
        rw [List.any_cons, holds_blank hb, Bool.false_or, ih h]
      · rw [Line.texts_cons hb] at h
        cases h with
        | cons hc h => rw [List.any_cons, List.any_cons, holds_of_read hc, ih h]

theorem allRead_shorten {clears keeps : Command → Bool} (h : AllRead (Line.texts ts) cs) :
    AllRead (Line.texts (shorten (holds clears) (holds keeps) ts)) (shorten clears keeps cs) := by
  induction ts generalizing cs with
  | nil =>
      cases h
      exact .nil
  | cons t ts ih =>
      by_cases hb : t.trim = []
      · rw [Line.texts_cons_blank hb] at h
        have hts := ih h
        rw [shorten]
        split
        · exact hts
        · rwa [Line.texts_cons_blank hb]
      · rw [Line.texts_cons hb] at h
        cases h with
        | cons hc h =>
            have hts := ih h
            rw [shorten, shorten, any_holds h, holds_of_read hc]
            split
            · exact hts
            · rw [Line.texts_cons hb]
              exact .cons hc hts

end Command

open Command (isClear isSetting holds)

/-- The source without the lines above its last clear that set neither color nor filling. -/
def shortened (source : Text) : Text :=
  Text.join '\n' (shorten (holds isClear) (holds isSetting) (source.splitOn '\n'))

theorem splitOn_shortened (source : Text) :
    (shortened source).splitOn '\n' = shorten (holds isClear) (holds isSetting) (source.splitOn '\n') := by
  apply Text.splitOn_join
  · intro t ht
    exact Text.not_mem_of_mem_splitOn (mem_of_mem_shorten ht)
  · exact shorten_ne_nil (List.splitOn_ne_nil _ _)

namespace Pen

variable {p q : Pen} {c : Command}

theorem after_clear_congr (h : p.after .clear = q.after .clear) (c : Command) :
    (p.after c).after .clear = (q.after c).after .clear := by
  obtain ⟨hcolor, hfill⟩ : p.color = q.color ∧ p.fill = q.fill := by simpa [after] using h
  cases c with
  | moveTo | drawTo | clear | rectangle | circle | triangle | reset => exact h
  | color choice => simp [after, hfill]
  | fill on => simp [after, hcolor]

theorem after_clear_of_isSetting_eq_false (h : isSetting c = false) :
    (p.after c).after .clear = p.after .clear := by
  cases c with
  | moveTo | drawTo | clear | rectangle | circle | triangle | reset => rfl
  | color | fill => cases h

theorem foldl_after_clear (h : p.after .clear = q.after .clear) (cs : List Command) :
    ((cs.filter isSetting).foldl after p).after .clear = (cs.foldl after q).after .clear := by
  induction cs generalizing p q with
  | nil => exact h
  | cons c cs ih =>
      cases hc : isSetting c with
      | true =>
          rw [List.filter_cons_of_pos hc]
          exact ih (after_clear_congr h c)
      | false =>
          rw [List.filter_cons_of_neg (by simp [hc])]
          exact ih (h.trans (after_clear_of_isSetting_eq_false hc).symm)

theorem ground?_of_mem_drawn {background : Color} {pen : Pen} {cs : List Command} {op : Operation}
    (h : op ∈ pen.drawn background cs) (hc : cs.any isClear = false) : op.ground? = none := by
  induction cs generalizing pen with
  | nil => cases h
  | cons c cs ih =>
      rw [List.any_cons, Bool.or_eq_false_iff] at hc
      rcases List.mem_append.mp h with h | h
      · cases c with
        | clear => simp [isClear] at hc
        | drawTo | rectangle | circle | triangle =>
            cases List.mem_singleton.mp h
            rfl
        | moveTo | color | reset | fill => cases h
      · exact ih h hc.2

end Pen

namespace Sheet

@[simp] theorem size_foldl_apply (s : Sheet) (ops : List Operation) : (ops.foldl apply s).size = s.size := by
  induction ops generalizing s with
  | nil => rfl
  | cons op ops ih =>
      rw [List.foldl_cons, ih]
      cases op with
      | clear => rfl
      | draw mark =>
          rw [apply]
          split
          · rfl
          · rfl

end Sheet

namespace Drawing

variable {d : Drawing}

theorem foldl_execute_clear (d : Drawing) (before after : List Command) :
    let pen := (before.foldl Pen.after d.pen).after .clear
    let since := pen.drawn d.background after
    let next := (before ++ .clear :: after).foldl execute d
    next.pen = after.foldl Pen.after pen ∧
      next.canvas.sheet = since.foldl Sheet.apply ⟨d.canvas.sheet.size, d.background, []⟩ ∧
      next.canvas.operations =
        d.canvas.operations ++ d.pen.drawn d.background before ++ .clear d.background :: since := by
  intro pen since next
  have hdrawn : d.pen.drawn d.background (before ++ .clear :: after) =
      d.pen.drawn d.background before ++ .clear d.background :: since := by
    rw [Pen.drawn_append]
    rfl
  refine ⟨?_, ?_, ?_⟩
  · rw [show next.pen = _ from pen_foldl_execute d _]
    simp [pen]
  · rw [show next.canvas = _ from canvas_foldl_execute d _, hdrawn]
    simp [Sheet.apply]
  · rw [show next.canvas = _ from canvas_foldl_execute d _, hdrawn]
    simp

theorem exists_last_clear {source : Text} {cs : List Command}
    (hr : Command.AllRead (Line.texts (source.splitOn '\n')) cs) (hc : (source.splitOn '\n').any (holds isClear)) :
    ∃ before after, cs = before ++ .clear :: after ∧ after.any isClear = false ∧
      Command.AllRead (Line.texts ((shortened source).splitOn '\n')) (before.filter isSetting ++ .clear :: after) := by
  rw [Command.any_holds hr] at hc
  obtain ⟨before, c, after, rfl, hclear, hafter, hs⟩ := shorten_eq isSetting hc
  obtain rfl : c = .clear := by simpa [isClear] using hclear
  refine ⟨before, after, rfl, hafter, ?_⟩
  rw [splitOn_shortened, ← hs]
  exact Command.allRead_shorten hr

/-- A program that is accepted and clears the sheet can be shortened. What is left is accepted, and run on any
drawing it leads to the same pen and the same document. From the last clear on it records the same. -/
theorem shortened_draws {source : Text} {n : Nat} (d : Drawing) (hv : validate source = .ok n)
    (hc : (source.splitOn '\n').any (holds isClear)) :
    let next := (d.run source).1
    let short := (d.run (shortened source)).1
    (∃ m, validate (shortened source) = .ok m) ∧
      short.pen = next.pen ∧
      short.canvas.sheet.document = next.canvas.sheet.document ∧
      ∃ before less since, next.canvas.operations = before ++ .clear d.background :: since ∧
        short.canvas.operations = less ++ .clear d.background :: since ∧ ∀ op ∈ since, op.ground? = none := by
  obtain ⟨cs, hr, hrun⟩ := exists_allRead_of_validate d hv
  obtain ⟨before, after, rfl, hafter, hr'⟩ := exists_last_clear hr hc
  have hrun' := run_of_allRead d hr'
  -- Without the other commands the pen is elsewhere by the last clear, but not after it.
  have hpen := Pen.foldl_after_clear (rfl : d.pen.after .clear = d.pen.after .clear) before
  obtain ⟨hp, hsheet, hops⟩ := d.foldl_execute_clear before after
  obtain ⟨hp', hsheet', hops'⟩ := d.foldl_execute_clear (before.filter isSetting) after
  rw [hpen] at hp' hsheet' hops'
  rw [hrun, hrun']
  refine ⟨⟨_, by rw [← run_result d, hrun']⟩, hp'.trans hp.symm, ?_, _, _, _, hops, hops', ?_⟩
  · rw [hsheet, hsheet']
  · intro op hop
    exact Pen.ground?_of_mem_drawn hop hafter

theorem shortened_draws_last_circle :
    let source := "color aqua\nmoveto 1 1\nclear\nfill on\ncircle 2\nclear\ncircle 3".toList
    validate source = .ok 7 ∧ (source.splitOn '\n').any (holds isClear) ∧
      shortened source = "color aqua\nfill on\nclear\ncircle 3".toList ∧
      ((Drawing.blank ⟨10, 10⟩ .white).run (shortened source)).1.pen =
        ((Drawing.blank ⟨10, 10⟩ .white).run source).1.pen := by
  intro source
  have hv : validate source = .ok 7 := by decide +kernel
  have hc : (source.splitOn '\n').any (holds isClear) := by decide +kernel
  exact ⟨hv, hc, by decide +kernel, (shortened_draws _ hv hc).2.1⟩

end Drawing

end Plotter
