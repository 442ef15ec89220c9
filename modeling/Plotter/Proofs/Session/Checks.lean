import Plotter.Proofs.Session.Typing

namespace Plotter.Session

open Request (typed)

variable {line accepted : Text}

/-- The line is entered as a command, and not read as a request, and it adds this text to the accepted lines. -/
def Enters (s : Session) (files : Files) (line accepted : Text) : Prop :=
  Input.read line = .command accepted ∧ (s.handle files line).session.accepted = s.accepted ++ [accepted]

theorem handle_checkLine (s : Session) (files : Files) (hb : line.trim ≠ []) :
    s.handle files (typed "check".toList line) = ⟨.say (checkLine line.trim), s, files⟩ := by
  apply handle_of_answer_say
  rw [Input.read_typed (by decide), Request.ofName]
  simp [hb, answer, obey]

theorem handle_rejected {e : CommandError} (s : Session) (files : Files) (hi : Input.read line = .command accepted)
    (hr : Command.read accepted = .error e) :
    s.handle files line = ⟨.say ("error executing command: ".toList ++ e.message), s, files⟩ := by
  apply handle_of_answer_say
  rw [hi, answer, enter, Drawing.enter_error hr]

theorem accepted_handle {c : Command} (s : Session) (files : Files) (hi : Input.read line = .command accepted)
    (hr : Command.read accepted = .ok c) :
    (s.handle files line).session.accepted = s.accepted ++ [accepted] := by
  rw [handle, hi, answer, enter, Drawing.enter_ok hr]

theorem enters_iff (s : Session) (files : Files) (hb : line.trim ≠ []) :
    s.Enters files line accepted ↔ accepted = line.trim ∧ ∃ c, Command.read line.trim = .ok c := by
  constructor
  · rintro ⟨hi, ha⟩
    have hc : line.trim.head? ≠ some ':' := by
      intro hc
      obtain ⟨rest, ht⟩ := List.head?_eq_some_iff.mp hc
      rw [Input.read_of_trim ht] at hi
      cases hi
    have hline : Input.read line = .command line.trim := Input.read_command hb hc
    obtain rfl : line.trim = accepted := Input.command.inj (hline.symm.trans hi)
    refine ⟨rfl, ?_⟩
    cases hr : Command.read line.trim with
    | error e =>
        rw [s.handle_rejected files hi hr] at ha
        simp at ha
    | ok c => exact ⟨c, rfl⟩
  · rintro ⟨rfl, c, hr⟩
    have hi : Input.read line = .command line.trim := Input.read_command hb (Command.head?_ne_colon_of_read hr)
    exact ⟨hi, s.accepted_handle files hi hr⟩

theorem checkLine_eq_ok_iff {t : Text} : checkLine t = "ok".toList ↔ ∃ c, Command.read t = .ok c := by
  rw [checkLine]
  constructor
  · intro h
    cases hr : Command.read t with
    | ok c => exact ⟨c, rfl⟩
    | error e =>
        rw [hr] at h
        have hhead : some 's' = some 'o' := congrArg List.head? h
        cases hhead
  · rintro ⟨c, hr⟩
    rw [hr]

/-- To check a line that is not blank leads to one reply in all sessions, and leaves each as it is. The reply is `ok`
just if the line would be entered, and what is accepted then is the trimmed line. If the line is no request
either, the reply and that to the line itself end with the message of one error. -/
theorem check_foretells_entry (hb : line.trim ≠ []) :
    ∃ reply : Reply,
      (∀ s files, handle s files (typed "check".toList line) = ⟨reply, s, files⟩) ∧
      ∀ s files,
        (reply.text? = some "ok".toList ↔ ∃ accepted, Enters s files line accepted) ∧
        (∀ accepted, Enters s files line accepted → accepted = line.trim) ∧
        (reply.text? ≠ some "ok".toList → line.trim.head? ≠ some ':' → ∃ e : CommandError,
          reply.text? = some ("syntax error in command: ".toList ++ line.trim ++ '\n' :: e.message) ∧
          (handle s files line).reply.text? = some ("error executing command: ".toList ++ e.message)) := by
  refine ⟨.say (checkLine line.trim), fun s files => s.handle_checkLine files hb, ?_⟩
  have htext : (Reply.say (checkLine line.trim)).text? = some (checkLine line.trim) := rfl
  intro s files
  refine ⟨?_, ?_, ?_⟩
  · rw [htext, Option.some_inj, checkLine_eq_ok_iff]
    constructor
    · rintro ⟨c, hr⟩
      exact ⟨line.trim, (s.enters_iff files hb).mpr ⟨rfl, c, hr⟩⟩
    · rintro ⟨accepted, he⟩
      exact ((s.enters_iff files hb).mp he).2
  · intro accepted he
    exact ((s.enters_iff files hb).mp he).1
  · intro hok hc
    rw [htext, ne_eq, Option.some_inj, checkLine_eq_ok_iff] at hok
    cases hr : Command.read line.trim with
    | ok c => exact absurd ⟨c, hr⟩ hok
    | error e =>
        refine ⟨e, ?_, ?_⟩
        · rw [htext, checkLine, hr]
          rfl
        · rw [s.handle_rejected files (Input.read_command hb hc) hr]
          rfl

theorem check_foretells_fill :
    let line : Text := " fill ON\n".toList
    line.trim ≠ [] ∧
      ∀ s files, (handle s files (typed "check".toList line)).reply.text? = some "ok".toList ∧
        Enters s files line "fill ON".toList := by
  intro line
  have hb : line.trim ≠ [] := by decide
  obtain ⟨reply, hcheck, h⟩ := check_foretells_entry hb
  have hok : reply.text? = some "ok".toList :=
    (h (blank ⟨1, 1⟩ .white) ⟨[]⟩).1.mpr ⟨"fill ON".toList, by decide, by decide +kernel⟩
  refine ⟨hb, fun s files => ⟨by rw [hcheck, hok], ?_⟩⟩
  obtain ⟨accepted, he⟩ := (h s files).1.mp hok
  have ht : accepted = "fill ON".toList := (h s files).2.1 accepted he
  rwa [ht] at he

end Plotter.Session
