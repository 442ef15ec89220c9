import Plotter.Proofs.Command.Letters
import Plotter.Proofs.Program.Layout

namespace Plotter.Drawing

open List (Forall₂)

/-- Two runs end alike: with one count, or at the same place in their lists, for causes that are alike. -/
inductive EndAlike (ls ms : List Line) : Except ProgramError Nat → Except ProgramError Nat → Prop
  | finished (count : Nat) : EndAlike ls ms (.ok count) (.ok count)
  | stopped (i : Nat) {l m : Line} {e f : CommandError} (hl : ls[i]? = some l) (hm : ms[i]? = some m)
      (hc : e.Alike f) : EndAlike ls ms (.error ⟨l, e⟩) (.error ⟨m, f⟩)

variable {ls ms : List Line}

theorem EndAlike.cons {r s : Except ProgramError Nat} (l m : Line) (h : EndAlike ls ms r s) :
    EndAlike (l :: ls) (m :: ms) r s := by
  cases h with
  | finished count => exact .finished count
  | stopped i hl hm hc => exact .stopped (i + 1) hl hm hc

theorem runLines_alike (h : Forall₂ (fun l m => l.text.SameWord m.text) ls ms) (d : Drawing) (count : Nat) :
    (d.runLines ms).1 = (d.runLines ls).1 ∧
      EndAlike ls ms ((d.runLines ls).2.elim (.ok count) .error) ((d.runLines ms).2.elim (.ok count) .error) := by
  induction h generalizing d with
  | nil => exact ⟨rfl, .finished count⟩
  | @cons l m ls ms hw _ ih =>
      have ha := Command.read_alike hw
      rw [runLines, runLines]
      generalize hl : Command.read l.text = r, hm : Command.read m.text = s at ha
      cases ha with
      | command c =>
          rw [enter_ok hl, enter_ok hm]
          obtain ⟨hd, he⟩ := ih (d.execute c)
          exact ⟨hd, he.cons l m⟩
      | rejected hc =>
          rw [enter_error hl, enter_error hm]
          exact ⟨rfl, .stopped 0 rfl rfl hc⟩

theorem run_alike {source other : Text} (d : Drawing)
    (h : Forall₂ (fun l m => l.text.SameWord m.text) (Line.ofSource source) (Line.ofSource other)) :
    (d.run other).1 = (d.run source).1 ∧
      EndAlike (Line.ofSource source) (Line.ofSource other) (d.run source).2 (d.run other).2 := by
  rw [run_eq, run_eq, ← h.length_eq]
  exact runLines_alike h d _

/-- Sources whose trimmed lines are the same up to the case of letters lead to one drawing, and they end alike.
Carriage returns before the line feeds and margins beside the lines leave the trimmed lines as they are.
Blank lines between them move the numbers of those below and nothing else. -/
theorem run_surface (d : Drawing) (source : Text) :
    (∀ other, Forall₂ (fun l m => l.text.SameWord m.text) (Line.ofSource source) (Line.ofSource other) →
      (d.run other).1 = (d.run source).1 ∧
        EndAlike (Line.ofSource source) (Line.ofSource other) (d.run source).2 (d.run other).2) ∧
    Line.ofSource source.withReturns = Line.ofSource source ∧
    (∀ padded, Forall₂ Text.Padded (source.splitOn '\n') padded →
      Line.ofSource (Text.join '\n' padded) = Line.ofSource source) ∧
    ∀ gaps, (∀ gap ∈ gaps, ∀ t ∈ gap, Text.Margin t) →
      Line.ofSource (Text.join '\n' (Line.spread gaps (source.splitOn '\n'))) =
        (Line.ofSource source).map fun l => l.below (gaps.take l.number).flatten.length := by
  refine ⟨?_, Line.ofSource_withReturns source, ?_, ?_⟩
  · intro other h
    exact run_alike d h
  · intro padded h
    exact Line.ofSource_padded h
  · intro gaps h
    exact Line.ofSource_spread source h

theorem run_surface_rejected :
    let d := Drawing.blank ⟨8, 8⟩ .white
    (d.run "\nfILL on\nFOO 1\n".toList).1 = (d.run "Fill ON\nfoo 1".toList).1 ∧
      EndAlike [⟨1, "Fill ON".toList⟩, ⟨2, "foo 1".toList⟩] [⟨2, "fILL on".toList⟩, ⟨3, "FOO 1".toList⟩]
        (d.run "Fill ON\nfoo 1".toList).2 (d.run "\nfILL on\nFOO 1\n".toList).2 ∧
      Line.ofSource "\tFill ON\nfoo 1\r".toList = [⟨1, "Fill ON".toList⟩, ⟨2, "foo 1".toList⟩] ∧
      Line.ofSource " \nFill ON\n\n\t\nfoo 1".toList = [⟨2, "Fill ON".toList⟩, ⟨5, "foo 1".toList⟩] := by
  intro d
  obtain ⟨hcase, -, hpadded, hspread⟩ := run_surface d "Fill ON\nfoo 1".toList
  obtain ⟨hrun, hend⟩ := hcase "\nfILL on\nFOO 1\n".toList (.cons (by decide) (.cons (by decide) .nil))
  refine ⟨hrun, hend, ?_, ?_⟩
  · exact hpadded ["\tFill ON".toList, "foo 1\r".toList]
      (.cons ⟨['\t'], [], by decide, by decide, rfl⟩ (.cons ⟨[], ['\r'], by decide, by decide, rfl⟩ .nil))
  · exact hspread [[[' ']], [[], ['\t']]] (by decide)

end Plotter.Drawing
