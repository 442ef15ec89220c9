import Plotter.Proofs.Program.Execution
import Plotter.Session

namespace Plotter.Session

open Command (AllRead)
open Drawing (Execution)

/-- The session after lines typed into it, each answered with the files as they are by then. -/
def after (s : Session) : List (Files × Text) → Session
  | [] => s
  | (files, line) :: inputs => (s.handle files line).session.after inputs

/-- Some lines lead to the session from an empty one. -/
def Reachable (size : Size) (background : Color) (s : Session) : Prop :=
  ∃ inputs, (blank size background).after inputs = s

/-- The second session has accepted further lines and executed their commands. -/
def Extends (s t : Session) : Prop :=
  ∃ ts cs, AllRead ts cs ∧ t.accepted = s.accepted ++ ts ∧ t.drawing = cs.foldl Drawing.execute s.drawing

variable {s t u : Session}

theorem Extends.refl (s : Session) : s.Extends s := ⟨[], [], .nil, (List.append_nil _).symm, rfl⟩

theorem Extends.trans (h : s.Extends t) (k : t.Extends u) : s.Extends u := by
  obtain ⟨ts, cs, hr, ha, hd⟩ := h
  obtain ⟨us, ds, hr', ha', hd'⟩ := k
  refine ⟨ts ++ us, cs ++ ds, hr.append hr', ?_, ?_⟩
  · rw [ha', ha, List.append_assoc]
  · rw [hd', hd, List.foldl_append]

theorem extends_enter (s : Session) (line : Text) : s.Extends (s.enter line).2 := by
  cases hr : Command.read line with
  | error e =>
      rw [enter, Drawing.enter_error hr]
      exact .refl s
  | ok c =>
      rw [enter, Drawing.enter_ok hr]
      exact ⟨[line], [c], .cons hr .nil, rfl, rfl⟩

theorem run_ok {source : Text} {next : Drawing} {n : Nat} (h : s.drawing.run source = (next, .ok n)) :
    s.run source = ("ran ".toList ++ Text.ofNat n ++ " commands".toList,
      ⟨next, s.accepted ++ Line.texts (source.splitOn '\n')⟩) := by
  simp [run, h, Line.ofSource]

theorem run_error {source : Text} {next : Drawing} {i : Nat} {t : Text} {cause : CommandError}
    (h : s.drawing.run source = (next, .error ⟨⟨i + 1, t⟩, cause⟩)) :
    s.run source = (ProgramError.message ⟨⟨i + 1, t⟩, cause⟩,
      ⟨next, s.accepted ++ Line.texts ((source.splitOn '\n').take i)⟩) := by
  -- The lines that join the session are cut off by number, and the cut is the one of the run.
  simp only [run, h]
  rw [Line.ofSource, Nat.add_comm i 1, Line.filter_numbered, Line.map_text_numbered]

theorem extends_run (s : Session) (source : Text) : s.Extends (s.run source).2 := by
  have hx := Drawing.run_executes s.drawing source
  rcases hrun : s.drawing.run source with ⟨next, result⟩
  rw [hrun] at hx
  cases hx with
  | finished hr =>
      rw [run_ok hrun]
      exact ⟨_, _, hr, rfl, rfl⟩
  | rejected ht hb hc hr =>
      rw [run_error hrun]
      exact ⟨_, _, hr, rfl, rfl⟩

@[simp] theorem writing_session (s : Session) (files : Files) (path content done : Text) :
    (s.writing files path content done).session = s := by
  rw [writing]
  cases files.write path content <;> rfl

theorem extends_obey (s : Session) (files : Files) (request : Request) :
    s.Extends (s.obey files request).session := by
  cases request with
  | load path =>
      cases h : files.read path with
      | error e => simpa [obey, h] using Extends.refl s
      | ok source => simpa [obey, h] using s.extends_run source
  | save path | svg path =>
      rw [obey, writing_session]
      exact .refl s
  | check =>
      rw [obey]
      cases checkReport (validate s.text) <;> exact .refl s
  | quit | pen | checkLine | help => exact .refl s

theorem extends_answer (s : Session) (files : Files) (input : Input) :
    s.Extends (s.answer files input).session := by
  cases input with
  | blank => exact .refl s
  | request request => exact s.extends_obey files request
  | command line => exact s.extends_enter line

theorem handle_of_answer_say {files written : Files} {line message : Text}
    (h : s.answer files (Input.read line) = ⟨.say message, s, written⟩) :
    s.handle files line = ⟨.say message, s, written⟩ := by
  simp [handle, h, Canvas.listingAfter, Listed.fromNumber, Reply.say, Reply.list]

theorem extends_handle (s : Session) (files : Files) (line : Text) : s.Extends (s.handle files line).session :=
  s.extends_answer files (Input.read line)

theorem extends_after (s : Session) (inputs : List (Files × Text)) : s.Extends (s.after inputs) := by
  induction inputs generalizing s with
  | nil => exact .refl s
  | cons input inputs ih => exact (s.extends_handle input.1 input.2).trans (ih _)

end Plotter.Session
