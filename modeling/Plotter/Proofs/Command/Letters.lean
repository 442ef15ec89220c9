import Plotter.Proofs.Command.Grammar
import Plotter.Proofs.Number.Letters

namespace Plotter

open List (Forall₂)
open Text (SameWord)

namespace ArgumentKind

variable {kind : ArgumentKind} {token other : Text} {value : kind.Value}

theorem Means.sameWord (hw : token.SameWord other) (h : kind.Means token value) : kind.Means other value := by
  cases kind with
  | number =>
      obtain ⟨hr, hf⟩ := h
      exact ⟨Number.read?_sameWord hw ▸ hr, hf⟩
  | color =>
      obtain ⟨hp, hn⟩ := h
      exact ⟨hp, hn.trans hw⟩
  | switch => exact SameWord.trans h hw

theorem Fits.sameWord (hw : token.SameWord other) (h : kind.Fits token) : kind.Fits other := by
  obtain ⟨value, hm⟩ := h
  exact ⟨value, hm.sameWord hw⟩

end ArgumentKind

namespace Arguments

variable {kind : ArgumentKind} {kinds : List ArgumentKind} {token : Text} {tokens others : List Text}

theorem Mean.sameWord {values : Arguments kinds} (hw : Forall₂ SameWord tokens others)
    (h : Mean kinds tokens values) : Mean kinds others values := by
  induction hw generalizing kinds with
  | nil => exact h
  | cons hw _ ih =>
      cases kinds with
      | nil => exact h.elim
      | cons kind kinds =>
          obtain ⟨hm, h⟩ := h
          exact ⟨hm.sameWord hw, ih h⟩

theorem exists_sameWord {i : Nat} (hw : Forall₂ SameWord tokens others) (ht : tokens[i]? = some token) :
    ∃ other, others[i]? = some other ∧ token.SameWord other := by
  induction hw generalizing i with
  | nil => simp at ht
  | cons hw _ ih =>
      cases i with
      | zero =>
          cases ht
          exact ⟨_, rfl, hw⟩
      | succ i => exact ih ht

theorem Misfit.sameWord {i : Nat} (hw : Forall₂ SameWord tokens others) (h : Misfit kinds tokens i kind token) :
    ∃ other, token.SameWord other ∧ Misfit kinds others i kind other := by
  obtain ⟨other, ho, hto⟩ := exists_sameWord hw h.token_at
  have hback : Forall₂ SameWord others tokens := (hw.imp fun _ _ h => h.symm).flip
  refine ⟨other, hto, h.kind_at, ho, fun hf => h.unfit (hf.sameWord hto.symm), ?_⟩
  intro j hj k u hk hu
  obtain ⟨t, ht, hut⟩ := exists_sameWord hback hu
  exact (h.fit_before j hj k t hk ht).sameWord hut.symm

end Arguments

/-- Two errors of one kind, the same but for the case of letters in what they quote. -/
inductive CommandError.Alike : CommandError → CommandError → Prop
  | emptyLine : Alike .emptyLine .emptyLine
  | unknownCommand {word other : Text} (hw : word.SameWord other) :
      Alike (.unknownCommand word) (.unknownCommand other)
  | arity (keyword : Keyword) (found : Nat) : Alike (.arity keyword found) (.arity keyword found)
  | argumentFormat {token other : Text} (hw : token.SameWord other) (expected : ArgumentKind) :
      Alike (.argumentFormat token expected) (.argumentFormat other expected)
  | unknownColor {token other : Text} (hw : token.SameWord other) : Alike (.unknownColor token) (.unknownColor other)

theorem ArgumentKind.misfit_alike {token other : Text} (kind : ArgumentKind) (hw : token.SameWord other) :
    (kind.misfit token).Alike (kind.misfit other) := by
  cases kind with
  | number => exact .argumentFormat hw .number
  | color => exact .unknownColor hw
  | switch => exact .argumentFormat hw .switch

namespace Command

inductive Alike : Except CommandError Command → Except CommandError Command → Prop
  | command (c : Command) : Alike (.ok c) (.ok c)
  | rejected {e f : CommandError} (h : e.Alike f) : Alike (.error e) (.error f)

variable {word other : Text} {tokens others : List Text} {r : Except CommandError Command}

theorem Outcome.sameWord (hw : word.SameWord other) (ht : Forall₂ SameWord tokens others)
    (h : Outcome word tokens r) : ∃ r', Outcome other others r' ∧ Alike r r' := by
  have hlength : tokens.length = others.length := ht.length_eq
  cases h with
  | emptyLine hn =>
      have ho : other = [] := hw.eq_nil_iff.mp hn
      exact ⟨_, .emptyLine ho, .rejected .emptyLine⟩
  | unknownCommand hn hk =>
      have ho : other ≠ [] := fun ho => hn (hw.eq_nil_iff.mpr ho)
      exact ⟨_, .unknownCommand ho fun k hko => hk k (hko.trans hw.symm), .rejected (.unknownCommand hw)⟩
  | arity hk hn =>
      rw [hlength] at hn ⊢
      exact ⟨_, .arity (hk.trans hw) hn, .rejected (.arity _ _)⟩
  | misfit hk hn hm =>
      obtain ⟨u, hu, hm⟩ := hm.sameWord ht
      exact ⟨_, .misfit (hk.trans hw) (hlength ▸ hn) hm, .rejected (ArgumentKind.misfit_alike _ hu)⟩
  | command hk hm => exact ⟨_, .command (hk.trans hw) (hm.sameWord ht), .command _⟩

theorem read_alike {s t : Text} (h : s.SameWord t) : Alike (read s) (read t) := by
  -- The spaces of both lines stand at the same places, so that their pieces can be compared one by one.
  obtain ⟨word, tokens, hs⟩ := List.exists_cons_of_ne_nil (List.splitOn_ne_nil ' ' s)
  obtain ⟨other, others, ht⟩ := List.exists_cons_of_ne_nil (List.splitOn_ne_nil ' ' t)
  have hpieces : Forall₂ SameWord (s.splitOn ' ') (t.splitOn ' ') := h.splitOn rfl
  rw [hs, ht, List.forall₂_cons] at hpieces
  obtain ⟨hword, htokens⟩ := hpieces
  obtain ⟨r, hr, ha⟩ := ((read_eq_iff_outcome hs).mp rfl).sameWord hword htokens
  rwa [read_of_outcome ht hr]

end Command

end Plotter
