import Plotter.Proofs.Drawing.Printout
import Plotter.Proofs.Files.Storage
import Plotter.Proofs.Program.Execution

namespace Plotter.CommandLine

open Drawing (Execution)
open Text (line)

variable {files : Files} {options : Options} {d : Drawing} {printed : Text} {reading : Except FileError Text}
  {check run : Transcript}

inductive Ending (files : Files) (options : Options) (d : Drawing) (printed : Text) : Transcript → Prop
  | shown (hs : options.svg = none) : Ending files options d printed ⟨printed, verboseLog options d, files, none⟩
  | written {target : Text} {written : Files} (hs : options.svg = some target)
      (hw : files.Stored target d.canvas.sheet.document written) :
      Ending files options d printed
        ⟨printed ++ line ("wrote ".toList ++ target), verboseLog options d, written, none⟩
  | unwritten {target : Text} {e : FileError} (hs : options.svg = some target)
      (hw : files.write target d.canvas.sheet.document = .error e) :
      Ending files options d printed ⟨printed, verboseLog options d, files, some e.message⟩

/-- What a check of a file and a run of it come to, by what is read from the file and how its lines are executed. The
tables that the run prints are those of the drawing that it has led to. -/
inductive Verdicts (files : Files) (options : Options) : Except FileError Text → Transcript → Transcript → Prop
  | unread (e : FileError) :
      Verdicts files options (.error e) ⟨[], [], files, some e.message⟩ ⟨[], [], files, some e.message⟩
  | rejected {source operations message : Text} {d : Drawing} {e : ProgramError}
      (hx : Execution (.blank options.size options.background) (source.splitOn '\n') d (.error e))
      (ho : d.operationTable.Shows operations)
      (hm : message = "error @ line ".toList ++ Text.ofNat e.line.number ++ ": ".toList ++ e.cause.message ++
        " (in \"".toList ++ e.line.text ++ "\")".toList) :
      Verdicts files options (.ok source)
        ⟨[], [], files, some ("syntax error in command: ".toList ++ e.line.text ++ '\n' :: message)⟩
        ⟨line operations, verboseLog options d, files, some message⟩
  | accepted {source operations counts state : Text} {d : Drawing} {n : Nat} {run : Transcript}
      (hx : Execution (.blank options.size options.background) (source.splitOn '\n') d (.ok n))
      (ho : d.operationTable.Shows operations) (hc : (d.countTable n).Shows counts) (hs : d.stateTable.Shows state)
      (hr : Ending files options d (Drawing.report operations counts state) run) :
      Verdicts files options (.ok source)
        ⟨line ("syntax is correct (".toList ++ Text.ofNat n ++ " commands)".toList), [], files, none⟩ run

theorem Ending.kept_of_failure (h : Ending files options d printed run) :
    run.failure = none ∨ run.files = files := by
  cases h with
  | shown | written => exact .inl rfl
  | unwritten => exact .inr rfl

theorem Verdicts.kept_of_failure (h : Verdicts files options reading check run) :
    check.files = files ∧ (run.failure = none ∨ run.files = files) := by
  cases h with
  | unread | rejected => exact ⟨rfl, .inr rfl⟩
  | accepted hx ho hc hs hr => exact ⟨rfl, hr.kept_of_failure⟩

theorem ending_runSource {source : Text} {n : Nat} (files : Files)
    (hrun : (Drawing.blank options.size options.background).run source = (d, .ok n)) :
    Ending files options d (Drawing.report d.operationTable.text (d.countTable n).text d.stateTable.text)
      (runSource files options source) := by
  simp only [runSource, hrun, Drawing.report_eq]
  cases hs : options.svg with
  | none => exact .shown hs
  | some target =>
      cases hw : files.write target d.canvas.sheet.document with
      | error e =>
          simp only [hw]
          exact .unwritten hs hw
      | ok written =>
          simp only [hw]
          exact .written hs (Files.stored_of_write hw)

theorem verdicts_source (files : Files) (options : Options) (source : Text) :
    Verdicts files options (.ok source) (checkSource files source) (runSource files options source) := by
  have hx := Drawing.run_executes (.blank options.size options.background) source
  have hresult := Drawing.run_result (.blank options.size options.background) source
  rw [checkSource, ← hresult]
  rcases hrun : (Drawing.blank options.size options.background).run source with ⟨d, e | n⟩
  · rw [hrun] at hx
    simp only [runSource, hrun, Drawing.table_listing]
    exact .rejected hx d.shows_operationTable rfl
  · rw [hrun] at hx
    exact .accepted hx d.shows_operationTable (d.shows_countTable n) d.shows_stateTable (ending_runSource files hrun)

/-- A check and a run of a file come to verdicts that belong together. The check changes no file, and neither does the
run unless it succeeds. -/
theorem check_beside_run (files : Files) (input : Bytes) (path : Text) (options : Options) :
    let check := perform files input (.check path)
    let run := perform files input (.run path options)
    Verdicts files options (files.read path) check run ∧
      check.files = files ∧ (run.failure = none ∨ run.files = files) := by
  intro check run
  have h : Verdicts files options (files.read path) check run := by
    simp only [check, run, perform, withSource]
    cases files.read path with
    | error e => exact .unread e
    | ok source => exact verdicts_source files options source
  exact ⟨h, h.kept_of_failure⟩

end Plotter.CommandLine
