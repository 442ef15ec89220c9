import Plotter.CommandLine
import Plotter.Proofs.Files.Storage
import Plotter.Proofs.Session.Replay
import Plotter.Proofs.Session.Requests
import Plotter.Proofs.Text.Letters

namespace Plotter

open Request (typed)

theorem Request.head?_helpText : helpText.head? = some 'c' := by
  rw [helpText, Text.head?_join (by decide)]
  rfl

theorem FileError.head?_message (e : FileError) : e.message.head? = some 'c' := by cases e <;> rfl

namespace Reply

variable {message : Text}

theorem text?_output (h : message ≠ []) (hn : '\n' ∉ message) (listing : List Listed) :
    ∃ shown, (output message listing).text? = some shown ∧ shown.takeWhile (· ≠ '\n') = message := by
  have hne : ∀ c ∈ message, decide (c ≠ '\n') = true := by
    intro c hc
    rw [decide_eq_true_eq]
    rintro rfl
    exact hn hc
  cases listing with
  | nil => exact ⟨message, rfl, List.takeWhile_eq_self_iff.mpr hne⟩
  | cons l ls =>
      refine ⟨Text.line message ++ Listed.table (l :: ls), by rw [text?, if_neg h], ?_⟩
      rw [Text.line, List.append_assoc, List.takeWhile_append_of_pos hne]
      simp

end Reply

namespace Session

variable {s : Session} {files : Files} {line path content source done : Text}

/-- Asked by this word to write a file, the session writes these bytes wherever that is possible. -/
def Writes (s : Session) (name : Text) (bytes : Bytes) : Prop :=
  ∀ files path, files.Writable path.trim → (s.handle files (typed name path)).files.bytes? path.trim = some bytes

theorem answer_save (s : Session) (files : Files) (hp : path.trim ≠ []) :
    s.answer files (Input.read (typed "save".toList path)) = s.writing files path.trim s.text
      ("saved ".toList ++ (Text.ofNat s.accepted.length ++ " commands".toList)) := by
  rw [Input.read_typed (by decide), Request.ofName]
  simp [hp, answer, obey]

theorem answer_svg (s : Session) (files : Files) (hp : path.trim ≠ []) :
    s.answer files (Input.read (typed "svg".toList path)) =
      s.writing files path.trim s.drawing.canvas.sheet.document ("wrote ".toList ++ path.trim) := by
  rw [Input.read_typed (by decide), Request.ofName]
  simp [hp, answer, obey]

theorem handle_writing (hw : files.Writable path)
    (ha : s.answer files (Input.read line) = s.writing files path content done) :
    (s.handle files line).files.bytes? path = some content.encode := by
  obtain ⟨written, hwritten⟩ := hw.write content
  have hsay : s.answer files (Input.read line) = ⟨.say done, s, written⟩ := by rw [ha, writing, hwritten]
  rw [handle_of_answer_say hsay]
  exact Files.bytes?_write hwritten

theorem writes_save (s : Session) : s.Writes "save".toList s.text.encode :=
  fun files _ hw => handle_writing hw (s.answer_save files hw.ne_nil)

theorem writes_svg (s : Session) : s.Writes "svg".toList s.drawing.canvas.sheet.document.encode :=
  fun files _ hw => handle_writing hw (s.answer_svg files hw.ne_nil)

theorem handle_load (s : Session) (hp : path.trim ≠ []) (h : files.read path.trim = .ok source) :
    s.handle files (typed "load".toList path) =
      ⟨.output (s.run source).1
        ((s.run source).2.drawing.canvas.listingAfter s.drawing.canvas.operations.length),
        (s.run source).2, files⟩ := by
  have ha : s.answer files (Input.read (typed "load".toList path)) =
      ⟨.say (s.run source).1, (s.run source).2, files⟩ := by
    rw [Input.read_typed (by decide), Request.ofName]
    simp [hp, answer, obey, h]
  rw [handle, ha]
  rfl

theorem saved_reply
    (h : (s.handle files (typed "save".toList path)).reply.text? = some ("saved ".toList ++ done)) :
    files.Writable path.trim ∧ done = Text.ofNat s.accepted.length ++ " commands".toList := by
  have hsay {message : Text} {written : Files}
      (ha : s.answer files (Input.read (typed "save".toList path)) = ⟨.say message, s, written⟩) :
      message = "saved ".toList ++ done := by
    rw [handle_of_answer_say ha] at h
    exact Option.some.inj h
  have hne {message : Text} (hc : message.head? = some 'c') : message ≠ "saved ".toList ++ done := by
    rintro rfl
    cases hc
  by_cases hp : path.trim = []
  · have hhelp : s.answer files (Input.read (typed "save".toList path)) = ⟨.say Request.helpText, s, files⟩ := by
      rw [Input.read_typed (by decide), Request.ofName]
      simp [hp, answer, obey]
    exact absurd (hsay hhelp) (hne Request.head?_helpText)
  · cases hw : files.write path.trim s.text with
    | ok written =>
        have hm := hsay (by rw [s.answer_save files hp, writing, hw])
        exact ⟨⟨_, _, hw⟩, (List.append_cancel_left hm).symm⟩
    | error e => exact absurd (hsay (by rw [s.answer_save files hp, writing, hw])) (hne e.head?_message)

theorem run_text_of_reachable {size : Size} {background : Color} (h : s.Reachable size background) :
    (blank size background).run s.text =
      ("ran ".toList ++ (Text.ofNat s.accepted.length ++ " commands".toList), s) := by
  obtain ⟨inputs, rfl⟩ := h
  have hx := extends_after (blank size background) inputs
  rw [run_ok (run_text_of_extends hx), texts_text_of_extends hx]
  rfl

end Session

namespace CommandLine

theorem perform_run {d : Drawing} {files : Files} {options : Options} {path target source : Text} {n : Nat}
    (input : Bytes) (hr : files.read path = .ok source)
    (hd : (Drawing.blank options.size options.background).run source = (d, .ok n))
    (hs : options.svg = some target) (hw : files.Writable target) :
    (perform files input (.run path options)).failure = none ∧
      (perform files input (.run path options)).files.bytes? target = some d.canvas.sheet.document.encode := by
  obtain ⟨written, hwritten⟩ := hw.write d.canvas.sheet.document
  simp only [perform, withSource, hr, runSource, hd, hs, hwritten]
  exact ⟨trivial, Files.bytes?_write hwritten⟩

end CommandLine

namespace Session

/-- A saved session can be had again from its file for as long as that stays as it is. Loading it
into an empty session leads to the saved one, which is saved to the same bytes. Running it writes the
document that the saved session writes. -/
theorem saved_session_reloads {size : Size} {background : Color} {s : Session} {files later : Files}
    {path done : Text} (hs : s.Reachable size background)
    (hsave : (s.handle files (typed "save".toList path)).reply.text? = some ("saved ".toList ++ done))
    (hkept : later.bytes? path.trim = (s.handle files (typed "save".toList path)).files.bytes? path.trim) :
    done = Text.ofNat s.accepted.length ++ " commands".toList ∧
      (let turn := (blank size background).handle later (typed "load".toList path)
      (∃ shown, turn.reply.text? = some shown ∧ shown.takeWhile (· ≠ '\n') = "ran ".toList ++ done) ∧
        turn.session = s ∧ turn.files = later ∧
        ∃ bytes, later.bytes? path.trim = some bytes ∧ turn.session.Writes "save".toList bytes) ∧
      ∀ (options : Options) input target, options.size = size → options.background = background →
        options.svg = some target → later.Writable target →
        let transcript := CommandLine.perform later input (.run path.trim options)
        transcript.failure = none ∧
          ∃ bytes, transcript.files.bytes? target = some bytes ∧ s.Writes "svg".toList bytes := by
  obtain ⟨hw, hdone⟩ := saved_reply hsave
  have hlater : later.bytes? path.trim = some s.text.encode := hkept.trans (s.writes_save files path hw)
  have hread : later.read path.trim = .ok s.text := Files.read_of_bytes? hlater
  refine ⟨hdone, ?_, ?_⟩
  · rw [handle_load _ hw.ne_nil hread, run_text_of_reachable hs, ← hdone]
    have hnl : '\n' ∉ "ran ".toList ++ done := by simp [hdone, Text.not_mem_ofNat]
    exact ⟨Reply.text?_output (by simp) hnl _, rfl, rfl, s.text.encode, hlater, s.writes_save⟩
  · rintro options input target rfl rfl hsvg htarget
    obtain ⟨inputs, rfl⟩ := hs
    have hrun := run_text_of_extends (extends_after (blank options.size options.background) inputs)
    obtain ⟨hfailure, hdocument⟩ := CommandLine.perform_run input hread hrun hsvg htarget
    exact ⟨hfailure, _, hdocument, writes_svg _⟩

theorem saved_circle_reloads :
    let s := (blank ⟨10, 10⟩ .white).after [(⟨[]⟩, "circle 2".toList)]
    let kept := (s.handle ⟨[]⟩ (typed "save".toList "a".toList)).files
    ((blank ⟨10, 10⟩ .white).handle kept (typed "load".toList "a".toList)).session = s ∧
      (CommandLine.perform kept [] (.run "a".toList ⟨some "b".toList, ⟨10, 10⟩, .white, false⟩)).failure =
        none := by
  intro s kept
  have hsave : (s.handle ⟨[]⟩ (typed "save".toList "a".toList)).reply.text? =
      some ("saved ".toList ++ "1 commands".toList) := by decide +kernel
  have hkept : kept.bytes? (Text.trim "a".toList) = kept.bytes? (Text.trim "a".toList) := rfl
  obtain ⟨-, ⟨-, hsession, -⟩, hrun⟩ := saved_session_reloads ⟨_, rfl⟩ hsave hkept
  exact ⟨hsession, (hrun _ [] _ rfl rfl rfl ⟨[], _, rfl⟩).1⟩

end Session

end Plotter
