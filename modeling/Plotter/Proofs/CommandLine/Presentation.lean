import Plotter.Proofs.CommandLine.Verdicts
import Plotter.Proofs.Session.Geometry
import Plotter.Proofs.Session.Resizing
import Plotter.Proofs.Text.Chunks

namespace Plotter

/-- The tables of the drawings are the same and so are their logs, and their documents differ in the first line at
most. -/
structure Drawing.ShownAlike (d e : Drawing) : Prop where
  operations : d.operationTable = e.operationTable
  counts : ∀ n, d.countTable n = e.countTable n
  state : d.stateTable = e.stateTable
  log : d.log = e.log
  document : (d.canvas.sheet.document.splitOn '\n').tail = (e.canvas.sheet.document.splitOn '\n').tail

theorem Drawing.shownAlike_resized (d : Drawing) (size : Size) : d.ShownAlike (d.resized size) where
  operations := rfl
  counts := fun _ => rfl
  state := rfl
  log := rfl
  document := d.canvas.sheet.tail_document_resized.symm

theorem Drawing.newline_not_mem_log_run (size : Size) (background : Color) (source : Text) :
    ∀ t ∈ ((blank size background).run source).1.log, '\n' ∉ t := by
  have hrun : ((blank size background).run source).1 =
      (Call.run source).commands.foldl execute (blank size background) :=
    (blank size background).answer_eq (.run source)
  have hblank : blank size background = { blank size background with log := [] } := rfl
  rw [hrun, hblank, foldl_execute_log, List.nil_append]
  exact newline_not_mem_logged (Call.expressible _)

theorem Conversation.leavesFiles_encode {ts : List Text} (h : ∀ t ∈ ts, (Input.read t).path? = none) :
    LeavesFiles (ts.map Text.encode) := by
  intro chunk hchunk typed hd
  obtain ⟨t, ht, rfl⟩ := List.mem_map.mp hchunk
  rw [Text.decode?_encode] at hd
  cases hd
  exact h _ ht

namespace CommandLine

open Conversation (LeavesFiles)
open Text (line)

variable {files : Files} {options : Options} {d : Drawing}

/-- What becomes of a run that has led to a drawing. After a line that is rejected, only the listing is printed; at the
end of a program, the summary follows, and then the document is written if a file is given for it. -/
inductive Presented (files : Files) (options : Options) (d : Drawing) : Except ProgramError Nat → Transcript → Prop
  | rejected (e : ProgramError) :
      Presented files options d (.error e)
        ⟨line d.operationTable.text, verboseLog options d, files, some e.message⟩
  | finished {n : Nat} {run : Transcript}
      (h : Ending files options d (Drawing.report d.operationTable.text (d.countTable n).text d.stateTable.text) run) :
      Presented files options d (.ok n) run

theorem presented_runSource (files : Files) (options : Options) (source : Text) :
    Presented files options ((Drawing.blank options.size options.background).run source).1 (validate source)
      (runSource files options source) := by
  rw [← Drawing.run_result (.blank options.size options.background)]
  rcases hrun : (Drawing.blank options.size options.background).run source with ⟨d, e | n⟩
  · simp only [runSource, hrun, Drawing.table_listing]
    exact .rejected e
  · exact .finished (ending_runSource files hrun)

theorem Presented.aside {result : Except ProgramError Nat} {run : Transcript}
    (h : Presented files options d result run) : run.aside = verboseLog options d := by
  cases h with
  | rejected e => rfl
  | finished h => cases h <;> rfl

/-- Under options with the same background, a program is accepted or rejected at the same line, and what is printed of
its drawing is the same. The log is printed if asked for, each notice on a line of its own. A conversation in which no
file is named shows the same, and comes to the same end. -/
theorem same_presentation (files other : Files) (a b : Options) (h : a.background = b.background) (source : Text)
    (input : Bytes) :
    let d := ((Drawing.blank a.size a.background).run source).1
    let e := ((Drawing.blank b.size b.background).run source).1
    let run := runSource files a source
    Presented files a d (validate source) run ∧
      Presented other b e (validate source) (runSource other b source) ∧
      d.ShownAlike e ∧
      run.aside = (if a.verbose then d.log.flatMap line else []) ∧
      (d.log.flatMap line).splitOn '\n' = d.log ++ [[]] ∧
      (LeavesFiles input.chunks →
        (repl files a input).output = (repl other b input).output ∧
          (repl files a input).failure = (repl other b input).failure) := by
  intro d e run
  have hrun : Presented files a d (validate source) run := presented_runSource files a source
  have hblank : Session.blank b.size b.background = (Session.blank a.size a.background).resized b.size := by
    rw [← h]
    rfl
  have he : e = d.resized b.size := by
    have hdrawing : Drawing.blank b.size b.background = (Drawing.blank a.size a.background).resized b.size :=
      congrArg Session.drawing hblank
    rw [show e = ((Drawing.blank b.size b.background).run source).1 from rfl, hdrawing, Drawing.run_resized]
  refine ⟨hrun, presented_runSource other b source, ?_, hrun.aside, ?_, ?_⟩
  · rw [he]
    exact d.shownAlike_resized b.size
  · exact Text.splitOn_flatMap_line (Drawing.newline_not_mem_log_run a.size a.background source)
  · intro hinput
    simp only [repl, hblank, Conversation.hold_resized hinput (.blank a.size a.background) files other, and_self]

theorem same_presentation_verbose :
    let input := Text.encode ":pen\ncircle 1".toList
    let source := "fill on\ncircle 1".toList
    let loud : Options := ⟨some "circle.svg".toList, ⟨1, 2⟩, .white, true⟩
    let d := ((Drawing.blank loud.size loud.background).run source).1
    loud.background = Options.default.background ∧ LeavesFiles (Bytes.chunks input) ∧ d.canvas.operations.length = 1 ∧
      d.ShownAlike ((Drawing.blank Options.default.size Options.default.background).run source).1 ∧
      (runSource ⟨[]⟩ loud source).aside = "--> fill on\n--> fill is now on\n--> circle 1\n".toList ∧
      (repl ⟨[]⟩ loud input).output = (repl ⟨[]⟩ .default input).output := by
  intro input source loud d
  have hchunks : Bytes.chunks input = [":pen\n".toList, "circle 1".toList].map Text.encode := by decide
  have hinput : LeavesFiles (Bytes.chunks input) := by
    rw [hchunks]
    exact Conversation.leavesFiles_encode (by decide)
  have hrun : d.canvas.operations.length = 1 ∧
      d.log.flatMap line = "--> fill on\n--> fill is now on\n--> circle 1\n".toList := by decide +kernel
  obtain ⟨-, -, halike, haside, -, hrepl⟩ := same_presentation ⟨[]⟩ ⟨[]⟩ loud .default rfl source input
  rw [if_pos rfl, hrun.2] at haside
  exact ⟨rfl, hinput, hrun.1, halike, haside, (hrepl hinput).1⟩

end CommandLine

end Plotter
