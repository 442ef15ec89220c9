import Plotter.Proofs.Program.Accepted
import Plotter.Proofs.Session.History

namespace Plotter

open Command (AllRead)

namespace Session

theorem texts_text {s : Session} (h : ∀ t ∈ s.accepted, Text.Clean t) :
    Line.texts (s.text.splitOn '\n') = s.accepted := by
  rw [text]
  cases ha : s.accepted with
  | nil => rfl
  | cons t ts =>
      rw [ha] at h
      have hne : Text.join '\n' (t :: ts) ≠ [] := Text.join_ne_nil (h t List.mem_cons_self).ne_nil ts
      obtain ⟨c, rest, hj⟩ := List.exists_cons_of_ne_nil hne
      rw [hj]
      show Line.texts ((Text.line (c :: rest)).splitOn '\n') = t :: ts
      rw [← hj, Text.line_join (List.cons_ne_nil t ts), Text.splitOn_flatMap_line fun u hu => (h u hu).newline_not_mem,
        Line.texts_append, Line.texts_of_clean h, Line.texts_cons_blank rfl]
      simp

theorem texts_text_of_extends {start : Drawing} {s : Session} (h : Extends ⟨start, []⟩ s) :
    Line.texts (s.text.splitOn '\n') = s.accepted := by
  obtain ⟨ts, cs, hr, ha, -⟩ := h
  exact texts_text (ha ▸ hr.clean)

theorem run_text_of_extends {start : Drawing} {s : Session} (h : Extends ⟨start, []⟩ s) :
    start.run s.text = (s.drawing, .ok s.accepted.length) := by
  have htexts := texts_text_of_extends h
  obtain ⟨ts, cs, hr, ha, hd⟩ := h
  have hts : s.accepted = ts := ha
  have hread : AllRead (Line.texts (s.text.splitOn '\n')) cs := by
    rwa [htexts, hts]
  rw [Drawing.run_of_allRead start hread, hd, hts, hr.length_eq]

theorem validate_text_of_extends {start : Drawing} {s : Session} (h : Extends ⟨start, []⟩ s) :
    validate s.text = .ok s.accepted.length := by
  rw [← Drawing.run_result start, run_text_of_extends h]

theorem handle_check {s : Session} {line : Text} {n : Nat} (files : Files) (h : line.trim = ":check".toList)
    (hv : validate s.text = .ok n) :
    s.handle files line =
      ⟨.say ("syntax is correct (".toList ++ Text.ofNat n ++ " commands)".toList), s, files⟩ := by
  have hread : Input.read line = .request .check := by
    rw [Input.read, h]
    rfl
  apply handle_of_answer_say
  rw [hread, answer, obey, hv]
  rfl

/-- The program of a session, run on the drawing that the session started with, leads to the drawing
of the session by as many lines as were accepted. A check of the session says so at any time. -/
theorem text_replays (start : Drawing) (inputs : List (Files × Text)) :
    let s := Session.after ⟨start, []⟩ inputs
    start.run s.text = (s.drawing, .ok s.accepted.length) ∧
      ∀ files line, line.trim = ":check".toList → (s.handle files line).reply.text? =
        some ("syntax is correct (".toList ++ Text.ofNat s.accepted.length ++ " commands)".toList) := by
  intro s
  have h : Extends ⟨start, []⟩ s := extends_after ⟨start, []⟩ inputs
  refine ⟨run_text_of_extends h, ?_⟩
  intro files line hline
  rw [handle_check files hline (validate_text_of_extends h)]
  rfl

end Session

end Plotter
