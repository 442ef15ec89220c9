import Plotter.Proofs.Command.Characters
import Plotter.Proofs.Program.Execution

namespace Plotter

open Command (AllRead)

namespace Line

def counted (n : Nat) (ts : List Text) : List Line := (ts.zipIdx n).map fun p => ⟨p.2, p.1⟩

theorem numbered_of_clean {ts : List Text} (h : ∀ t ∈ ts, Text.Clean t) (n : Nat) : numbered n ts = counted n ts := by
  induction ts generalizing n with
  | nil => rfl
  | cons t ts ih =>
      obtain ⟨ht, hts⟩ := List.forall_mem_cons.mp h
      rw [numbered, ht.trim_eq, if_neg ht.ne_nil, ih hts]
      rfl

theorem texts_of_clean {ts : List Text} (h : ∀ t ∈ ts, Text.Clean t) : texts ts = ts := by
  rw [← map_text_numbered 1, numbered_of_clean h, counted, List.map_map]
  exact List.zipIdx_map_fst 1 ts

end Line

theorem Command.AllRead.clean {ts : List Text} {cs : List Command} (h : AllRead ts cs) :
    ∀ t ∈ ts, Text.Clean t := by
  intro t ht
  obtain ⟨c, hc⟩ := h.exists_read ht
  exact Command.clean_of_read hc

namespace Drawing

theorem runLines_of_allRead {ls : List Line} {cs : List Command} (d : Drawing)
    (h : AllRead (ls.map (·.text)) cs) : d.runLines ls = (cs.foldl execute d, none) := by
  induction ls generalizing d cs with
  | nil =>
      cases h
      rfl
  | cons l ls ih =>
      cases h with
      | cons hc h => rw [runLines, enter_ok hc, List.foldl_cons, ← ih _ h]

theorem run_of_allRead {source : Text} {cs : List Command} (d : Drawing)
    (h : AllRead (Line.texts (source.splitOn '\n')) cs) :
    d.run source = (cs.foldl execute d, .ok cs.length) := by
  have hlines : AllRead ((Line.ofSource source).map (·.text)) cs := by
    rwa [Line.ofSource, Line.map_text_numbered]
  rw [run, runLines_of_allRead d hlines, length_ofSource, h.length_eq]

theorem exists_allRead_of_validate {source : Text} {n : Nat} (d : Drawing) (h : validate source = .ok n) :
    ∃ cs, AllRead (Line.texts (source.splitOn '\n')) cs ∧ d.run source = (cs.foldl execute d, .ok n) := by
  have hx := run_executes d source
  rw [← run_result d] at h
  rw [h] at hx
  generalize (d.run source).1 = next at hx
  cases hx with
  | finished hr => exact ⟨_, hr, run_of_allRead d hr⟩

theorem run_join {ts : List Text} {cs : List Command} (d : Drawing) (h : AllRead ts cs) :
    d.run (Text.join '\n' ts) = (cs.foldl execute d, .ok cs.length) := by
  have htexts : Line.texts ((Text.join '\n' ts).splitOn '\n') = ts := by
    by_cases hts : ts = []
    · rw [hts]
      rfl
    · rw [Text.splitOn_join (fun t ht => (h.clean t ht).newline_not_mem) hts, Line.texts_of_clean h.clean]
  exact run_of_allRead d (by rwa [htexts])

end Drawing

end Plotter
