import Plotter.Proofs.Program.Execution
import Plotter.Proofs.Text.Pieces

namespace Plotter

/-- The line as it is counted when there are `k` more lines above it. -/
def Line.below (k : Nat) (l : Line) : Line := ⟨l.number + k, l.text⟩

def ProgramError.below (k : Nat) (e : ProgramError) : ProgramError := ⟨e.line.below k, e.cause⟩

namespace Line

theorem numbered_append (n : Nat) (ts us : List Text) :
    numbered n (ts ++ us) = numbered n ts ++ numbered (n + ts.length) us := by
  induction ts generalizing n with
  | nil => rfl
  | cons t ts ih =>
      have hlength : n + (t :: ts).length = n + 1 + ts.length := by simp [Nat.add_comm, Nat.add_left_comm]
      rw [List.cons_append, numbered, numbered, ih, hlength]
      split
      · rfl
      · rfl

theorem numbered_add (n k : Nat) (ts : List Text) : numbered (n + k) ts = (numbered n ts).map (below k) := by
  induction ts generalizing n with
  | nil => rfl
  | cons t ts ih =>
      have hnext : n + k + 1 = n + 1 + k := Nat.add_right_comm n k 1
      rw [numbered, numbered, hnext, ih]
      split
      · rfl
      · rfl

theorem ofSource_append (a b : Text) :
    ofSource (a ++ '\n' :: b) = ofSource a ++ (ofSource b).map (below (a.count '\n' + 1)) := by
  rw [ofSource, List.splitOn_append_cons_self, numbered_append, Text.length_splitOn, numbered_add]
  rfl

end Line

namespace Drawing

theorem runLines_append (d : Drawing) (ls ms : List Line) :
    d.runLines (ls ++ ms) =
      match d.runLines ls with
      | (next, some e) => (next, some e)
      | (next, none) => next.runLines ms := by
  induction ls generalizing d with
  | nil => rfl
  | cons l ls ih =>
      cases h : Command.read l.text with
      | error cause => simp [runLines, enter_error h]
      | ok c => simp [runLines, enter_ok h, ih]

@[simp] theorem runLines_below (d : Drawing) (k : Nat) (ls : List Line) :
    d.runLines (ls.map (Line.below k)) = ((d.runLines ls).1, (d.runLines ls).2.map (ProgramError.below k)) := by
  induction ls generalizing d with
  | nil => rfl
  | cons l ls ih =>
      have htext : (l.below k).text = l.text := rfl
      cases h : Command.read l.text with
      | error cause =>
          rw [List.map_cons, runLines, runLines, htext, enter_error h]
          rfl
      | ok c =>
          rw [List.map_cons, runLines, runLines, htext, enter_ok h]
          exact ih _

theorem run_eq (d : Drawing) (source : Text) :
    d.run source = ((d.runLines (Line.ofSource source)).1,
      (d.runLines (Line.ofSource source)).2.elim (.ok (Line.ofSource source).length) .error) := by
  rw [run]
  rcases d.runLines (Line.ofSource source) with ⟨next, _ | e⟩
  · rfl
  · rfl

theorem run_append (d : Drawing) (a b : Text) :
    d.run (a ++ '\n' :: b) =
      match d.run a with
      | (next, .error e) => (next, .error e)
      | (next, .ok n) =>
        ((next.run b).1, ((next.run b).2.map (n + ·)).mapError (ProgramError.below (a.count '\n' + 1))) := by
  rw [run_eq, run_eq d a, Line.ofSource_append, runLines_append, List.length_append, List.length_map]
  rcases d.runLines (Line.ofSource a) with ⟨next, _ | e⟩
  · simp only [runLines_below, run_eq, Option.elim_none]
    rcases next.runLines (Line.ofSource b) with ⟨last, _ | e⟩
    · rfl
    · rfl
  · rfl

/-- Of two programs, one below the other, the second is not reached if a line of the first is rejected. Else
it is run on what the first has drawn, and both counts are added up. The lines of the first, as many as it
has line feeds and one more, are above the line of an error in the second. So it is with a check. -/
theorem run_below (d : Drawing) (a b : Text) :
    d.run (a ++ '\n' :: b) =
        (match d.run a with
        | (next, .error e) => (next, .error e)
        | (next, .ok n) =>
          ((next.run b).1, ((next.run b).2.map (n + ·)).mapError (ProgramError.below (a.count '\n' + 1)))) ∧
      validate (a ++ '\n' :: b) =
        match validate a with
        | .error e => .error e
        | .ok n => ((validate b).map (n + ·)).mapError (ProgramError.below (a.count '\n' + 1)) := by
  refine ⟨run_append d a b, ?_⟩
  rw [← run_result d, run_append, ← run_result d a]
  rcases d.run a with ⟨next, e | n⟩
  · rfl
  · rw [← run_result next b]

end Drawing

end Plotter
