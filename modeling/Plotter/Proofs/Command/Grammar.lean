import Plotter.Proofs.Command.Signature
import Plotter.Proofs.Text.Pieces

namespace Plotter

namespace Keyword

variable {j k : Keyword} {word : Text}

theorem eq_of_sameWord (h : j.text.SameWord k.text) : j = k := by
  revert h
  cases j <;> cases k <;> decide

@[simp] theorem mem_all (k : Keyword) : k ∈ all := by cases k <;> decide

theorem named?_eq_some_iff : named? word = some k ↔ k.text.SameWord word := by
  rw [named?, Text.find?_eq_some_iff fun _ _ _ _ => eq_of_sameWord]
  exact and_iff_right k.mem_all

@[simp] theorem text_ne_nil (k : Keyword) : k.text ≠ [] := by cases k <;> decide

theorem word_ne_nil (h : k.text.SameWord word) : word ≠ [] := by
  intro hw
  exact k.text_ne_nil (h.eq_nil_iff.mpr hw)

end Keyword

namespace Command

/-- What a line leads to, by its first piece, the word, and the others, the tokens. -/
inductive Outcome (word : Text) (tokens : List Text) : Except CommandError Command → Prop
  | emptyLine (hw : word = []) : Outcome word tokens (.error .emptyLine)
  | unknownCommand (hw : word ≠ []) (hk : ∀ k : Keyword, ¬ k.text.SameWord word) :
      Outcome word tokens (.error (.unknownCommand word))
  | arity {k : Keyword} (hk : k.text.SameWord word) (hn : tokens.length ≠ k.arity) :
      Outcome word tokens (.error (.arity k tokens.length))
  | misfit {k : Keyword} {i : Nat} {kind : ArgumentKind} {token : Text} (hk : k.text.SameWord word)
      (hn : tokens.length = k.arity) (hm : Arguments.Misfit k.signature tokens i kind token) :
      Outcome word tokens (.error (kind.misfit token))
  | command {c : Command} (hk : c.keyword.text.SameWord word)
      (hm : Arguments.Mean c.keyword.signature tokens c.arguments) : Outcome word tokens (.ok c)

variable {line word : Text} {tokens : List Text}

theorem Outcome.arity_ne {r : Except CommandError Command} {k : Keyword} {n : Nat} (h : Outcome word tokens r)
    (hr : r = .error (.arity k n)) : n = tokens.length ∧ n ≠ k.arity := by
  cases h with
  | arity hk hn =>
      cases hr
      exact ⟨rfl, hn⟩
  | misfit hk hn hm => exact absurd (Except.error.inj hr) (ArgumentKind.misfit_ne_arity _ _ _ _)
  | emptyLine | unknownCommand | command => cases hr

theorem outcome_exists (word : Text) (tokens : List Text) : ∃ r, Outcome word tokens r := by
  by_cases hw : word = []
  · exact ⟨_, .emptyLine hw⟩
  · by_cases hk : ∃ k : Keyword, k.text.SameWord word
    · obtain ⟨k, hk⟩ := hk
      by_cases hn : tokens.length = k.arity
      · obtain ⟨values, hm⟩ | ⟨i, kind, token, hm⟩ := Arguments.mean_or_misfit hn
        · obtain ⟨c, rfl, hc⟩ := exists_mean hm
          exact ⟨_, .command hk hc⟩
        · exact ⟨_, .misfit hk hn hm⟩
      · exact ⟨_, .arity hk hn⟩
    · exact ⟨_, .unknownCommand hw (not_exists.mp hk)⟩

theorem read_nil (h : line.splitOn ' ' = [] :: tokens) : read line = .error .emptyLine := by
  rw [read, h]

theorem read_unknown (hw : word ≠ []) (hk : ∀ k : Keyword, ¬ k.text.SameWord word)
    (h : line.splitOn ' ' = word :: tokens) : read line = .error (.unknownCommand word) := by
  have hn : Keyword.named? word = none := by
    cases hn : Keyword.named? word with
    | none => rfl
    | some k => exact absurd (Keyword.named?_eq_some_iff.mp hn) (hk k)
  obtain ⟨c, rest, rfl⟩ := List.exists_cons_of_ne_nil hw
  simp only [read, h, hn]

theorem read_keyword {k : Keyword} (hk : k.text.SameWord word) (h : line.splitOn ' ' = word :: tokens) :
    read line =
      if tokens.length = k.arity then (Taking.command k).run' tokens else .error (.arity k tokens.length) := by
  have hn : Keyword.named? word = some k := Keyword.named?_eq_some_iff.mpr hk
  obtain ⟨c, rest, rfl⟩ := List.exists_cons_of_ne_nil (Keyword.word_ne_nil hk)
  simp only [read, h, hn]

theorem read_of_outcome {r : Except CommandError Command} (h : line.splitOn ' ' = word :: tokens)
    (ho : Outcome word tokens r) : read line = r := by
  cases ho with
  | emptyLine hw => exact read_nil (hw ▸ h)
  | unknownCommand hw hk => exact read_unknown hw hk h
  | arity hk hn => rw [read_keyword hk h, if_neg hn]
  | misfit hk hn hm =>
      rw [read_keyword hk h, if_pos hn, StateT.run', Taking.command_of_misfit hm]
      rfl
  | command hk hm =>
      have hn : tokens.length = Keyword.arity _ := hm.length_eq
      rw [read_keyword hk h, if_pos hn, StateT.run', Taking.command_of_mean hm]
      rfl

theorem read_eq_iff_outcome {r : Except CommandError Command} (h : line.splitOn ' ' = word :: tokens) :
    read line = r ↔ Outcome word tokens r := by
  constructor
  · rintro rfl
    obtain ⟨r, hr⟩ := outcome_exists word tokens
    rwa [read_of_outcome h hr]
  · exact read_of_outcome h

end Command

namespace Taking

variable {k : Keyword} {tokens : List Text}

theorem command_cases (h : tokens.length = k.arity) :
    (∃ c, command k tokens = .ok (c, [])) ∨
      ∃ kind token, command k tokens = .error (ArgumentKind.misfit kind token) := by
  obtain ⟨values, hm⟩ | ⟨i, kind, token, hm⟩ := Arguments.mean_or_misfit h
  · obtain ⟨c, rfl, hc⟩ := Command.exists_mean hm
    exact .inl ⟨c, command_of_mean hc⟩
  · exact .inr ⟨kind, token, command_of_misfit hm⟩

end Taking

/-- The pieces of a line between its spaces decide what it leads to. Its tokens never run out where
they are taken one by one, none is left over, and a count of them is reported only if it is wrong. -/
theorem Command.read_by_grammar (line : Text) :
    ∃ word tokens, line = Text.join ' ' (word :: tokens) ∧ (∀ t ∈ word :: tokens, ' ' ∉ t) ∧
      tokens.length = line.count ' ' ∧
      (∀ r, Command.read line = r ↔ Command.Outcome word tokens r) ∧
      (∀ k, tokens.length = k.arity → ∀ j n, Taking.command k tokens ≠ .error (.arity j n)) ∧
      (∀ k, tokens.length = k.arity → ∀ c left, Taking.command k tokens = .ok (c, left) → left = []) ∧
      ∀ k n, Command.read line = .error (.arity k n) → n = line.count ' ' ∧ n ≠ k.arity := by
  obtain ⟨word, tokens, h⟩ := List.exists_cons_of_ne_nil (List.splitOn_ne_nil ' ' line)
  have hlen : tokens.length = line.count ' ' := by
    have hl := Text.length_splitOn ' ' line
    rw [h, List.length_cons] at hl
    omega
  refine ⟨word, tokens, ?_, ?_, hlen, fun r => read_eq_iff_outcome h, ?_, ?_, ?_⟩
  · rw [← h, Text.join_splitOn]
  · intro t ht
    exact Text.not_mem_of_mem_splitOn (h ▸ ht)
  · intro k hk j n hc
    obtain ⟨c, hok⟩ | ⟨kind, token, he⟩ := Taking.command_cases hk
    · rw [hok] at hc
      cases hc
    · rw [he] at hc
      exact ArgumentKind.misfit_ne_arity _ _ _ _ (Except.error.inj hc)
  · intro k hk c left hc
    obtain ⟨c', hok⟩ | ⟨kind, token, he⟩ := Taking.command_cases hk
    · rw [hok] at hc
      cases hc
      rfl
    · rw [he] at hc
      cases hc
  · intro k n hr
    exact hlen ▸ ((read_eq_iff_outcome h).mp hr).arity_ne rfl

end Plotter
