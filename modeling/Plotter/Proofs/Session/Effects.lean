import Plotter.Proofs.Drawing.Drawn
import Plotter.Proofs.Files.Storage
import Plotter.Proofs.Program.Log
import Plotter.Proofs.Session.History

namespace Plotter

theorem Line.first_le {n : Nat} {ts : List Text} {l : Line} {ls : List Line} (h : numbered n ts = l :: ls) :
    ∀ m ∈ l :: ls, l.number ≤ m.number := by
  induction ts generalizing n with
  | nil => cases h
  | cons t ts ih =>
      rw [numbered] at h
      split at h
      · exact ih h
      · cases h
        intro m hm
        rcases List.mem_cons.mp hm with rfl | hm
        · exact Nat.le_refl _
        · exact Nat.le_of_succ_le (le_number _ ts m hm)

@[simp] theorem Canvas.listingAfter_self (c : Canvas) : c.listingAfter c.operations.length = [] := by
  rw [listingAfter, List.drop_length, Listed.fromNumber]

namespace Session

/-- What an input comes to. Session and files are the old ones but for an accepted command, a program that starts
with one, and a file that was written. -/
inductive Effect (s : Session) (files : Files) : Input → Turn → Prop
  | blank : Effect s files .blank ⟨.say [], s, files⟩
  | asked {request : Request} (hp : request.path? = none) (reply : Reply) :
      Effect s files (.request request) ⟨reply, s, files⟩
  | rejected {line : Text} {e : CommandError} (hc : Command.read line = .error e) :
      Effect s files (.command line) ⟨.say ("error executing command: ".toList ++ e.message), s, files⟩
  | accepted {line : Text} {c : Command} (hc : Command.read line = .ok c) (message : Text) (listing : List Listed) :
      Effect s files (.command line)
        ⟨.output message listing, ⟨s.drawing.execute c, s.accepted ++ [line]⟩, files⟩
  | unread {path : Text} {e : FileError} (hr : files.read path = .error e) :
      Effect s files (.request (.load path)) ⟨.say e.message, s, files⟩
  | spoiled {path source : Text} {l : Line} {ls : List Line} {e : CommandError} (hr : files.read path = .ok source)
      (hl : Line.ofSource source = l :: ls) (hc : Command.read l.text = .error e) :
      Effect s files (.request (.load path)) ⟨.say (ProgramError.message ⟨l, e⟩), s, files⟩
  | loaded {path source : Text} (hr : files.read path = .ok source)
      (hc : ∀ l ∈ (Line.ofSource source).head?, ∃ c, Command.read l.text = .ok c) (message : Text)
      (listing : List Listed) :
      Effect s files (.request (.load path)) ⟨.output message listing, (s.run source).2, files⟩
  | saved {path : Text} {written : Files} (hw : files.Stored path s.text written) :
      Effect s files (.request (.save path))
        ⟨.say ("saved ".toList ++ Text.ofNat s.accepted.length ++ " commands".toList), s, written⟩
  | rendered {path : Text} {written : Files} (hw : files.Stored path s.drawing.canvas.sheet.document written) :
      Effect s files (.request (.svg path)) ⟨.say ("wrote ".toList ++ path), s, written⟩
  | unwritten {request : Request} {path content : Text} {e : FileError}
      (hp : request = .save path ∨ request = .svg path) (hw : files.write path content = .error e) :
      Effect s files (.request request) ⟨.say e.message, s, files⟩

variable {s t : Session} {files : Files} {input : Input} {turn : Turn} {source : Text}

theorem run_of_rejected {l : Line} {ls : List Line} {e : CommandError} (s : Session)
    (hl : Line.ofSource source = l :: ls) (hc : Command.read l.text = .error e) :
    s.run source = (ProgramError.message ⟨l, e⟩, s) := by
  have hrun : s.drawing.run source = (s.drawing, .error ⟨l, e⟩) := by
    simp only [Drawing.run, hl, Drawing.runLines, Drawing.enter_error hc]
  have hbefore : (Line.ofSource source).filter (·.number < l.number) = [] := by
    rw [List.filter_eq_nil_iff, hl]
    intro m hm
    simpa using Line.first_le hl m hm
  simp only [run, hrun, hbefore, List.map_nil, List.append_nil]

theorem effect_load (s : Session) (files : Files) (path : Text) :
    Effect s files (.request (.load path)) (s.obey files (.load path)) := by
  rw [obey]
  cases hr : files.read path with
  | error e => exact .unread hr
  | ok source =>
      cases hl : Line.ofSource source with
      | nil => exact .loaded hr (by simp [hl]) _ _
      | cons l ls =>
          cases hc : Command.read l.text with
          | error e =>
              simp only [s.run_of_rejected hl hc]
              exact .spoiled hr hl hc
          | ok c => exact .loaded hr (by simp [hl, hc]) _ _

theorem effect_obey (s : Session) (files : Files) (request : Request) :
    Effect s files (.request request) (s.obey files request) := by
  cases request with
  | load path => exact s.effect_load files path
  | save path =>
      rw [obey, writing]
      cases hw : files.write path s.text with
      | error e => exact .unwritten (.inl rfl) hw
      | ok written => exact .saved (Files.stored_of_write hw)
  | svg path =>
      rw [obey, writing]
      cases hw : files.write path s.drawing.canvas.sheet.document with
      | error e => exact .unwritten (.inr rfl) hw
      | ok written => exact .rendered (Files.stored_of_write hw)
  | check =>
      rw [obey]
      cases checkReport (validate s.text) <;> exact .asked rfl _
  | quit | pen | checkLine | help => exact .asked rfl _

theorem effect_answer (s : Session) (files : Files) (input : Input) :
    Effect s files input (s.answer files input) := by
  cases input with
  | blank => exact .blank
  | request request => exact s.effect_obey files request
  | command line =>
      rw [answer, enter]
      cases hc : Command.read line with
      | error e =>
          rw [Drawing.enter_error hc]
          exact .rejected hc
      | ok c =>
          rw [Drawing.enter_ok hc]
          exact .accepted hc _ _

theorem Effect.list (h : Effect s files input turn) :
    Effect s files input { turn with
      reply := turn.reply.list (turn.session.drawing.canvas.listingAfter s.drawing.canvas.operations.length) } := by
  have hsame := h
  cases h with
  | asked hp => exact .asked hp _
  | accepted hc => exact .accepted hc _ _
  | loaded hr hc => exact .loaded hr hc _ _
  | blank | rejected | unread | spoiled | saved | rendered | unwritten =>
      rw [Canvas.listingAfter_self]
      exact hsame

/-- What there is of a session stays, and more may follow it. -/
structure Grows (s t : Session) : Prop where
  accepted : s.accepted <+: t.accepted
  operations : s.drawing.canvas.operations <+: t.drawing.canvas.operations
  log : s.drawing.log <+: t.drawing.log
  background : t.drawing.background = s.drawing.background

theorem Extends.grows (h : s.Extends t) : s.Grows t := by
  obtain ⟨ts, cs, -, ha, hd⟩ := h
  constructor
  · exact ⟨ts, ha.symm⟩
  · simp [hd]
  · rw [hd, show s.drawing = { s.drawing with log := s.drawing.log } from rfl, Drawing.foldl_execute_log]
    exact List.prefix_append _ _
  · simp [hd]

/-- Whatever is typed, the session is the old one or has grown from it, and which of the two, and which file has
changed if any, is decided by the kind of input and by its success. -/
theorem line_effect (s : Session) (files : Files) (line : Text) :
    Effect s files (Input.read line) (s.handle files line) ∧ s.Grows (s.handle files line).session :=
  ⟨(s.effect_answer files (Input.read line)).list, (s.extends_handle files line).grows⟩

end Session

end Plotter
