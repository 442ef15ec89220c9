import Mathlib.Data.List.Forall2
import Plotter.Program

namespace Plotter

namespace Line

/-- What is left of lines when they are trimmed and the blank ones dropped. -/
def texts (ts : List Text) : List Text := (ts.map Text.trim).filter (· ≠ [])

variable {t : Text} {ts : List Text}

@[simp] theorem texts_nil : texts [] = [] := rfl

@[simp] theorem texts_cons_blank (h : t.trim = []) : texts (t :: ts) = texts ts := by simp [texts, h]

@[simp] theorem texts_cons (h : t.trim ≠ []) : texts (t :: ts) = t.trim :: texts ts := by simp [texts, h]

@[simp] theorem texts_append (ts us : List Text) : texts (ts ++ us) = texts ts ++ texts us := by simp [texts]

theorem trim_mem_texts (ht : t ∈ ts) (h : t.trim ≠ []) : t.trim ∈ texts ts :=
  List.mem_filter.mpr ⟨List.mem_map_of_mem ht, by simpa using h⟩

@[simp] theorem map_text_numbered (n : Nat) (ts : List Text) : (numbered n ts).map (·.text) = texts ts := by
  induction ts generalizing n with
  | nil => rfl
  | cons t ts ih =>
      by_cases h : t.trim = []
      · simp [numbered, h, ih]
      · simp [numbered, h, ih]

theorem le_number (n : Nat) (ts : List Text) : ∀ l ∈ numbered n ts, n ≤ l.number := by
  induction ts generalizing n with
  | nil => simp [numbered]
  | cons t ts ih =>
      intro l hl
      rw [numbered] at hl
      split at hl
      · exact Nat.le_of_succ_le (ih _ l hl)
      · rcases List.mem_cons.mp hl with rfl | hl
        · exact Nat.le_refl n
        · exact Nat.le_of_succ_le (ih _ l hl)

theorem filter_numbered (n k : Nat) (ts : List Text) :
    (numbered n ts).filter (fun l => l.number < n + k) = numbered n (ts.take k) := by
  -- The numbers count the lines, blank ones too, so that a bound on them cuts the source.
  induction ts generalizing n k with
  | nil => simp [numbered]
  | cons t ts ih =>
      cases k with
      | zero =>
          rw [List.take_zero, numbered, List.filter_eq_nil_iff]
          intro l hl
          simpa using le_number n (t :: ts) l hl
      | succ k =>
          have hk : n + (k + 1) = n + 1 + k := by omega
          by_cases h : t.trim = []
          · rw [List.take_succ_cons, numbered, numbered, if_pos h, if_pos h, hk, ih]
          · rw [List.take_succ_cons, numbered, numbered, if_neg h, if_neg h, List.filter_cons_of_pos (by simp), hk,
              ih]

end Line

namespace Command

/-- The texts are lines of these commands, one of each. -/
def AllRead (ts : List Text) (cs : List Command) : Prop := List.Forall₂ (fun t c => Command.read t = .ok c) ts cs

variable {t : Text} {ts us : List Text} {c : Command} {cs ds : List Command}

theorem AllRead.nil : AllRead [] [] := List.Forall₂.nil

theorem AllRead.cons (hc : Command.read t = .ok c) (h : AllRead ts cs) : AllRead (t :: ts) (c :: cs) :=
  List.Forall₂.cons hc h

theorem AllRead.append (h : AllRead ts cs) (k : AllRead us ds) : AllRead (ts ++ us) (cs ++ ds) :=
  List.rel_append h k

theorem AllRead.length_eq (h : AllRead ts cs) : ts.length = cs.length := List.Forall₂.length_eq h

theorem AllRead.exists_read (h : AllRead ts cs) (ht : t ∈ ts) : ∃ c, Command.read t = .ok c := by
  induction h with
  | nil => simp at ht
  | cons hc _ ih =>
      rcases List.mem_cons.mp ht with rfl | ht
      · exact ⟨_, hc⟩
      · exact ih ht

end Command

namespace Drawing

open Command (AllRead)

variable {d : Drawing} {t : Text} {c : Command} {cause : CommandError}

theorem enter_ok (h : Command.read t = .ok c) : d.enter t = .ok (d.execute c) := by simp [enter, h, Except.map]

theorem enter_error (h : Command.read t = .error cause) : d.enter t = .error cause := by
  simp [enter, h, Except.map]

/-- How the lines of a source may be executed, and to what result: all of them, or those before the
first that is rejected. -/
inductive Execution (d : Drawing) (ts : List Text) : Drawing → Except ProgramError Nat → Prop
  | finished {cs : List Command} (hr : AllRead (Line.texts ts) cs) :
      Execution d ts (cs.foldl execute d) (.ok cs.length)
  | rejected {cs : List Command} {i : Nat} {t : Text} {cause : CommandError} (ht : ts[i]? = some t)
      (hb : t.trim ≠ []) (hc : Command.read t.trim = .error cause) (hr : AllRead (Line.texts (ts.take i)) cs) :
      Execution d ts (cs.foldl execute d) (.error ⟨⟨i + 1, t.trim⟩, cause⟩)

theorem runLines_numbered (d : Drawing) (n : Nat) (ts : List Text) :
    (∃ cs, AllRead (Line.texts ts) cs ∧ d.runLines (Line.numbered n ts) = (cs.foldl execute d, none)) ∨
      ∃ cs i t cause, ts[i]? = some t ∧ t.trim ≠ [] ∧ Command.read t.trim = .error cause ∧
        AllRead (Line.texts (ts.take i)) cs ∧
        d.runLines (Line.numbered n ts) = (cs.foldl execute d, some ⟨⟨n + i, t.trim⟩, cause⟩) := by
  -- The induction is on the lines as they stand in the source, blank ones included, since these advance the
  -- numbers.
  induction ts generalizing n d with
  | nil => exact .inl ⟨[], .nil, rfl⟩
  | cons t ts ih =>
      by_cases hb : t.trim = []
      · have hn : Line.numbered n (t :: ts) = Line.numbered (n + 1) ts := by rw [Line.numbered, if_pos hb]
        rw [hn, Line.texts_cons_blank hb]
        obtain h | ⟨cs, i, u, cause, hu, hub, hc, hr, hrun⟩ := ih d (n + 1)
        · exact .inl h
        · refine .inr ⟨cs, i + 1, u, cause, hu, hub, hc, ?_, ?_⟩
          · rwa [List.take_succ_cons, Line.texts_cons_blank hb]
          · rw [hrun, Nat.add_assoc, Nat.add_comm 1 i]
      · have hn : Line.numbered n (t :: ts) = ⟨n, t.trim⟩ :: Line.numbered (n + 1) ts := by
          rw [Line.numbered, if_neg hb]
        rw [hn, Line.texts_cons hb]
        cases hread : Command.read t.trim with
        | error cause =>
            exact .inr ⟨[], 0, t, cause, rfl, hb, hread, .nil, by simp [runLines, enter_error hread]⟩
        | ok c =>
            have hstep (ls : List Line) : d.runLines (⟨n, t.trim⟩ :: ls) = (d.execute c).runLines ls := by
              simp [runLines, enter_ok hread]
            rw [hstep]
            obtain ⟨cs, hr, hrun⟩ | ⟨cs, i, u, cause, hu, hub, hc, hr, hrun⟩ := ih (d.execute c) (n + 1)
            · exact .inl ⟨c :: cs, .cons hread hr, hrun⟩
            · refine .inr ⟨c :: cs, i + 1, u, cause, hu, hub, hc, ?_, ?_⟩
              · rw [List.take_succ_cons, Line.texts_cons hb]
                exact .cons hread hr
              · rw [hrun, Nat.add_assoc, Nat.add_comm 1 i]
                rfl

@[simp] theorem length_ofSource (source : Text) :
    (Line.ofSource source).length = (Line.texts (source.splitOn '\n')).length := by
  rw [← Line.map_text_numbered 1, List.length_map, Line.ofSource]

theorem run_executes (d : Drawing) (source : Text) :
    Execution d (source.splitOn '\n') (d.run source).1 (d.run source).2 := by
  obtain ⟨cs, hr, hrun⟩ | ⟨cs, i, t, cause, ht, hb, hc, hr, hrun⟩ := runLines_numbered d 1 (source.splitOn '\n')
  · have h : d.run source = (cs.foldl execute d, .ok cs.length) := by
      rw [run, length_ofSource, hr.length_eq, Line.ofSource, hrun]
    rw [h]
    exact .finished hr
  · have h : d.run source = (cs.foldl execute d, .error ⟨⟨i + 1, t.trim⟩, cause⟩) := by
      rw [run, Line.ofSource, hrun, Nat.add_comm 1 i]
    rw [h]
    exact .rejected ht hb hc hr

theorem runLines_error (d : Drawing) (ls : List Line) : (d.runLines ls).2 = ls.findSome? Line.error? := by
  induction ls generalizing d with
  | nil => rfl
  | cons l ls ih =>
      cases h : Command.read l.text with
      | error cause => simp [runLines, enter_error h, Line.error?, h]
      | ok c => simp [runLines, enter_ok h, Line.error?, h, ih]

theorem run_result (d : Drawing) (source : Text) : (d.run source).2 = validate source := by
  rw [run, validate, ← runLines_error d]
  rcases h : d.runLines (Line.ofSource source) with ⟨next, _ | e⟩ <;> rfl

/-- A check foretells the result of a run from any drawing. The run has executed just the commands
before the line of the error, which is the first bad one, or all of them. -/
theorem run_foretold (d : Drawing) (source : Text) :
    (d.run source).2 = validate source ∧
      Execution d (source.splitOn '\n') (d.run source).1 (validate source) ∧
      ∀ e, validate source = .error e → ∀ (i : Nat) (t : Text), (source.splitOn '\n')[i]? = some t →
        i + 1 < e.line.number → t.trim ≠ [] → ∃ c, Command.read t.trim = .ok c := by
  have hx := run_executes d source
  rw [run_result] at hx
  refine ⟨run_result d source, hx, ?_⟩
  intro e he i t ht hi hb
  rw [he] at hx
  generalize (d.run source).1 = next at hx
  cases hx with
  | @rejected cs k u cause hu hub hc hr =>
      have hik : i < k := by simpa using hi
      have hmem : t ∈ (source.splitOn '\n').take k :=
        List.mem_of_getElem? (by rwa [List.getElem?_take_of_lt hik])
      exact hr.exists_read (Line.trim_mem_texts hmem hb)

end Drawing

end Plotter
