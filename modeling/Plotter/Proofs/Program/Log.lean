import Plotter.Proofs.Command.Canonical
import Plotter.Proofs.Program.Accepted

namespace Plotter

open Command (AllRead)

namespace Command

variable {c : Command} {t : Text}

def Rejected (t : Text) : Prop := ∃ e, Command.read t = .error e

theorem rejected_of_word {word : Text} (hw : word ≠ []) (hspace : ' ' ∉ word)
    (hk : ∀ k : Keyword, ¬ k.text.SameWord word) (rest : Text) : Rejected (word ++ ' ' :: rest) :=
  ⟨_, read_unknown hw hk (List.splitOn_append_cons_self_of_not_mem hspace rest)⟩

theorem rejected_badExtent (n : Number) : Rejected (badExtent n) := by
  have hk : ∀ k : Keyword, ¬ k.text.SameWord "extent".toList := by
    intro k
    cases k <;> decide
  have hword : badExtent n = "extent".toList ++ [' '] ++ n.text ++ " is not a size: drawing empty shape".toList := rfl
  rw [hword, List.append_assoc, List.append_assoc, List.singleton_append]
  exact rejected_of_word (by decide) (by decide) hk _

theorem rejected_color (name : Text) : Rejected ("pen color is now ".toList ++ name) := by
  have hk : ∀ k : Keyword, ¬ k.text.SameWord "pen".toList := by
    intro k
    cases k <;> decide
  have hword : "pen color is now ".toList = "pen".toList ++ ' ' :: "color is now ".toList := by decide
  rw [hword, List.append_assoc, List.cons_append]
  exact rejected_of_word (by decide) (by decide) hk _

theorem rejected_fill (on : Bool) : Rejected ("fill is now ".toList ++ Switch.text on) := by
  cases on with
  | true => exact ⟨.arity .fill 3, rfl⟩
  | false => exact ⟨.arity .fill 3, rfl⟩

theorem notices_eq (c : Command) : ∃ remarks, c.notices = c.text :: remarks ∧ ∀ t ∈ remarks, Rejected t := by
  refine ⟨_, rfl, ?_⟩
  intro t ht
  rcases List.mem_append.mp ht with ht | ht
  · obtain ⟨n, -, rfl⟩ := List.mem_map.mp ht
    exact rejected_badExtent n
  · cases c with
    | color choice =>
        rw [List.mem_singleton.mp ht]
        exact rejected_color choice.name
    | fill on =>
        rw [List.mem_singleton.mp ht]
        exact rejected_fill on
    | moveTo | drawTo | clear | rectangle | circle | triangle | reset => cases ht

theorem filter_notices (h : c.Expressible) : c.notices.filter (fun t => (Command.read t).isOk) = [c.text] := by
  obtain ⟨remarks, hn, hr⟩ := c.notices_eq
  have hremarks : remarks.filter (fun t => (Command.read t).isOk) = [] := by
    rw [List.filter_eq_nil_iff]
    intro t ht
    obtain ⟨e, he⟩ := hr t ht
    simp [he, Except.isOk, Except.toBool]
  rw [hn, List.filter_cons_of_pos (by simp [read_text h, Except.isOk, Except.toBool]), hremarks]

theorem newline_not_mem_notices (h : c.Expressible) : ∀ t ∈ c.notices, '\n' ∉ t := by
  intro t ht
  rcases List.mem_append.mp ht with ht | ht
  · rcases List.mem_cons.mp ht with rfl | ht
    · exact (clean_of_read (read_text h)).newline_not_mem
    · obtain ⟨n, -, rfl⟩ := List.mem_map.mp ht
      exact List.not_mem_append (List.not_mem_append (by decide) (n.not_mem_text rfl (by decide))) (by decide)
  · cases c with
    | color choice =>
        have hname := NamedColor.graphic_name h.1
        rw [List.mem_singleton.mp ht]
        exact List.not_mem_append (by decide) (hname.not_mem_of_isGraphic_eq_false rfl)
    | fill on =>
        rw [List.mem_singleton.mp ht]
        exact List.not_mem_append (by decide) ((Switch.graphic_text on).not_mem_of_isGraphic_eq_false rfl)
    | moveTo | drawTo | clear | rectangle | circle | triangle | reset => cases ht

/-- The commands on the lines before the first that is rejected. -/
def upToError : List Text → List Command
  | [] => []
  | t :: ts =>
    match Command.read t with
    | .ok c => c :: upToError ts
    | .error _ => []

theorem expressible_of_mem_upToError {ts : List Text} (h : c ∈ upToError ts) : c.Expressible := by
  induction ts with
  | nil => cases h
  | cons t ts ih =>
      rw [upToError] at h
      split at h
      next d hd =>
        rcases List.mem_cons.mp h with rfl | h
        · exact expressible_of_read hd
        · exact ih h
      next => cases h

end Command

namespace Drawing

/-- What is handed to a drawing: a line to enter, or a program to run. -/
inductive Call
  | enter (line : Text)
  | run (source : Text)

def Call.commands : Call → List Command
  | .enter line => Command.upToError [line]
  | .run source => Command.upToError ((Line.ofSource source).map (·.text))

def answer (d : Drawing) : Call → Drawing
  | .enter line =>
    match d.enter line with
    | .ok next => next
    | .error _ => d
  | .run source => (d.run source).1

/-- A line of the log without what stands before each notice. -/
def notice (line : Text) : Text := line.drop (logLine []).length

def logged (cs : List Command) : List Text := cs.flatMap fun c => c.notices.map logLine

@[simp] theorem notice_logLine (t : Text) : notice (logLine t) = t := rfl

theorem runLines_upToError (d : Drawing) (ls : List Line) :
    (d.runLines ls).1 = (Command.upToError (ls.map (·.text))).foldl execute d := by
  induction ls generalizing d with
  | nil => rfl
  | cons l ls ih =>
      rw [List.map_cons, Command.upToError]
      cases hr : Command.read l.text with
      | error e => simp [runLines, enter_error hr]
      | ok c => simp [runLines, enter_ok hr, ih]

@[simp] theorem answer_eq (d : Drawing) (call : Call) : d.answer call = call.commands.foldl execute d := by
  cases call with
  | enter line =>
      rw [answer, Call.commands, Command.upToError]
      cases hr : Command.read line with
      | error e => simp [enter_error hr]
      | ok c => simp [enter_ok hr, Command.upToError]
  | run source =>
      rw [answer, Call.commands, ← runLines_upToError, run]
      rcases d.runLines (Line.ofSource source) with ⟨next, _ | e⟩ <;> rfl

@[simp] theorem foldl_answer (d : Drawing) (calls : List Call) :
    calls.foldl answer d = (calls.flatMap Call.commands).foldl execute d := by
  induction calls generalizing d with
  | nil => rfl
  | cons call calls ih => simp [ih]

theorem foldl_execute_log (d : Drawing) (log : List Text) (cs : List Command) :
    cs.foldl execute { d with log := log } = { cs.foldl execute d with log := log ++ logged cs } := by
  induction cs generalizing d log with
  | nil => simp [logged]
  | cons c cs ih =>
      have hstep : execute { d with log := log } c = { d.execute c with log := log ++ c.notices.map logLine } := rfl
      rw [List.foldl_cons, hstep, ih, List.foldl_cons, logged, logged, List.flatMap_cons, List.append_assoc]

theorem filter_logged {cs : List Command} (h : ∀ c ∈ cs, c.Expressible) :
    ((logged cs).map notice).filter (fun t => (Command.read t).isOk) = cs.map Command.text := by
  induction cs with
  | nil => rfl
  | cons c cs ih =>
      have hc : (c.notices.map logLine).map notice = c.notices := by
        simp [Function.comp_def]
      rw [logged, List.flatMap_cons, List.map_append, hc, List.filter_append,
        Command.filter_notices (h c List.mem_cons_self), ← logged, ih fun d hd => h d (List.mem_cons_of_mem c hd)]
      rfl

theorem newline_not_mem_logged {cs : List Command} (h : ∀ c ∈ cs, c.Expressible) : ∀ t ∈ logged cs, '\n' ∉ t := by
  intro t ht
  obtain ⟨c, hc, ht⟩ := List.mem_flatMap.mp ht
  obtain ⟨notice, hnotice, rfl⟩ := List.mem_map.mp ht
  exact List.not_mem_append (by decide) (Command.newline_not_mem_notices (h c hc) notice hnotice)

theorem allRead_text {cs : List Command} (h : ∀ c ∈ cs, c.Expressible) : AllRead (cs.map Command.text) cs := by
  induction cs with
  | nil => exact .nil
  | cons c cs ih =>
      exact .cons (Command.read_text (h c List.mem_cons_self)) (ih fun d hd => h d (List.mem_cons_of_mem c hd))

/-- Whatever was handed to a drawing, the log has grown by what is logged for the commands executed. Those
of the new lines that are lines of commands give just these commands. As a program they lead from the same
start, with any log, to the same drawing, and add the same lines to the log. -/
theorem log_replays (d : Drawing) (calls : List Call) :
    let next := calls.foldl answer d
    let executed := calls.flatMap Call.commands
    let lines := next.log.drop d.log.length
    let kept := (lines.map notice).filter fun t => (Command.read t).isOk
    next = executed.foldl execute d ∧
      next.log = d.log ++ lines ∧
      lines = logged executed ∧
      AllRead kept executed ∧
      ∀ log, run { d with log := log } (Text.join '\n' kept) =
        ({ next with log := log ++ lines }, .ok kept.length) := by
  intro next executed lines kept
  have hexpressible : ∀ c ∈ executed, c.Expressible := by
    intro c hc
    obtain ⟨call, -, hcall⟩ := List.mem_flatMap.mp hc
    cases call <;> exact Command.expressible_of_mem_upToError hcall
  have hnext : next = executed.foldl execute d := foldl_answer d calls
  have hlog : next.log = d.log ++ logged executed := by
    rw [hnext, show d = { d with log := d.log } from rfl, foldl_execute_log]
  have hlines : lines = logged executed := by
    rw [show lines = next.log.drop d.log.length from rfl, hlog, List.drop_left]
  have hkept : kept = executed.map Command.text := by
    rw [show kept = (lines.map notice).filter fun t => (Command.read t).isOk from rfl, hlines,
      filter_logged hexpressible]
  have hread : AllRead kept executed := hkept ▸ allRead_text hexpressible
  refine ⟨hnext, by rw [hlines, hlog], hlines, hread, ?_⟩
  intro log
  rw [run_join _ hread, foldl_execute_log, hnext, hlines, hread.length_eq]

end Drawing

end Plotter
