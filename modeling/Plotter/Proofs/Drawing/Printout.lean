import Mathlib.Data.List.Forall2
import Plotter.CommandLine
import Plotter.Proofs.Text.Pieces

namespace Plotter

open Text (line)

namespace Table

/-- A line of cells between bars, each at the left of its column with a blank on either side. -/
inductive Cells : List Nat → List Text → Text → Prop
  | nil : Cells [] [] ['│']
  | cons {w : Nat} {ws : List Nat} {t : Text} {ts : List Text} {rest : Text} (hw : t.length ≤ w)
      (h : Cells ws ts rest) :
      Cells (w :: ws) (t :: ts) ('│' :: ' ' :: t ++ List.replicate (w - t.length) ' ' ++ ' ' :: rest)

/-- Between the borders stand the header and the rows, a line for each, and the columns are as wide in all of them. -/
def Shows (t : Table) (printed : Text) : Prop :=
  ∃ widths titles lines, Cells widths t.header titles ∧ List.Forall₂ (Cells widths) t.rows lines ∧
    printed = Text.join '\n' (border '┌' '┬' '┐' widths :: titles :: border '├' '┼' '┤' widths ::
      if lines = [] then [] else lines ++ [border '└' '┴' '┘' widths])

def Fits (ts : List Text) (ws : List Nat) : Prop := List.Forall₂ (fun t w => t.length ≤ w) ts ws

variable {ts : List Text} {ws vs : List Nat} {rows : List (List Text)} {t : Table}

theorem Fits.max_left (h : Fits ts ws) (hlength : vs.length = ws.length) : Fits ts (List.zipWith max ws vs) := by
  induction h generalizing vs with
  | nil => exact .nil
  | cons hw _ ih =>
      obtain ⟨v, vs, rfl⟩ := List.exists_cons_of_length_eq_add_one hlength
      exact .cons (Nat.le_trans hw (Nat.le_max_left _ _)) (ih (Nat.succ.inj hlength))

theorem fits_max (h : ts.length = ws.length) : Fits ts (List.zipWith max ws (ts.map List.length)) := by
  induction ts generalizing ws with
  | nil =>
      rw [List.eq_nil_of_length_eq_zero h.symm]
      exact .nil
  | cons t ts ih =>
      obtain ⟨w, ws, rfl⟩ := List.exists_cons_of_length_eq_add_one h.symm
      exact .cons (Nat.le_max_right _ _) (ih (Nat.succ.inj h))

theorem fits_foldl (h : ∀ row ∈ rows, row.length = ws.length) :
    let widths := rows.foldl (fun widths row => List.zipWith max widths (row.map List.length)) ws
    (∀ ts, Fits ts ws → Fits ts widths) ∧ ∀ row ∈ rows, Fits row widths := by
  induction rows generalizing ws with
  | nil => exact ⟨fun ts hts => hts, nofun⟩
  | cons row rows ih =>
      obtain ⟨hrow, hrows⟩ := List.forall_mem_cons.mp h
      have hlength : (List.zipWith max ws (row.map List.length)).length = ws.length := by simp [hrow]
      obtain ⟨hwider, hfits⟩ := ih fun row hmem => (hrows row hmem).trans hlength.symm
      -- What fits by now goes on fitting, since the columns only get wider.
      refine ⟨?_, List.forall_mem_cons.mpr ⟨hwider row (fits_max hrow), hfits⟩⟩
      intro ts hts
      exact hwider ts (hts.max_left (by rw [List.length_map, hrow]))

theorem cells_flatMap (h : Fits ts ws) : Cells ws ts ((List.zipWith cell ws ts).flatMap ('│' :: ·) ++ ['│']) := by
  induction h with
  | nil => exact .nil
  | cons hw _ ih =>
      rw [List.zipWith_cons_cons, List.flatMap_cons, List.append_assoc, cell]
      have hcons := Cells.cons hw ih
      simpa using hcons

theorem cells_row (h : Fits ts ws) (hne : ts ≠ []) : Cells ws ts (row ws ts) := by
  cases h with
  | nil => exact absurd rfl hne
  | cons hw h =>
      have hcells := cells_flatMap (.cons hw h)
      rw [List.zipWith_cons_cons] at hcells
      rwa [row, List.zipWith_cons_cons, Text.join_cons]

theorem shows_text (hne : t.header ≠ []) (h : ∀ row ∈ t.rows, row.length = t.header.length) : t.Shows t.text := by
  have hlength : ∀ row ∈ t.rows, row.length = (t.header.map List.length).length := by simpa using h
  have hheader : Fits t.header (t.header.map List.length) := by
    rw [Fits, List.forall₂_map_right_iff]
    exact List.forall₂_same.mpr fun _ _ => Nat.le_refl _
  obtain ⟨hwider, hfits⟩ := fits_foldl hlength
  refine ⟨t.widths, row t.widths t.header, t.rows.map (row t.widths), cells_row (hwider _ hheader) hne, ?_, ?_⟩
  · rw [List.forall₂_map_right_iff]
    refine List.forall₂_same.mpr fun ts hts => cells_row (hfits ts hts) ?_
    rintro rfl
    exact hne (List.eq_nil_of_length_eq_zero (h [] hts).symm)
  · rw [text, lines]
    simp only [List.map_eq_nil_iff]

end Table

namespace Operation

/-- What is printed of an operation: its number, name, geometry and color, and whether it is filled if that can be. -/
def entries (op : Operation) (number : Nat) : List Text :=
  [Text.ofNat number, op.name, op.geometry, op.color.text,
    op.filled?.elim [] fun filled => if filled then "true".toList else "false".toList]

@[simp] theorem row_eq_entries (n : Nat) (op : Operation) : Listed.row ⟨n, op⟩ = op.entries n := by
  rw [Listed.row, cells, filledText, entries]
  rcases op.filled? with _ | _ | _ <;> rfl

theorem rows_fromNumber (n : Nat) (ops : List Operation) :
    (Listed.fromNumber n ops).map Listed.row = (ops.zipIdx n).map fun p => p.1.entries p.2 := by
  induction ops generalizing n with
  | nil => rfl
  | cons op ops ih => simp [Listed.fromNumber, ih, List.zipIdx_cons]

end Operation

namespace Drawing

def operationTable (d : Drawing) : Table :=
  ⟨["#".toList, "op".toList, "geometry".toList, "color".toList, "filled".toList],
    (d.canvas.operations.zipIdx 1).map fun p => p.1.entries p.2⟩

def countTable (d : Drawing) (n : Nat) : Table :=
  ⟨["lines".toList, "operations".toList], [[Text.ofNat n, Text.ofNat d.canvas.operations.length]]⟩

def stateTable (d : Drawing) : Table :=
  ⟨["position".toList, "color".toList, "fill".toList, "background".toList],
    [[d.pen.position.text, d.pen.color.text, if d.pen.fill then "on".toList else "off".toList, d.background.text]]⟩

/-- The three tables of a finished run, with a caption above the last two. -/
def report (operations counts state : Text) : Text :=
  line operations ++ line [] ++ line "--- summary ---".toList ++ line counts ++ line state

theorem table_listing (d : Drawing) : Listed.table d.canvas.listing = d.operationTable.text := by
  rw [Listed.table, Canvas.listing, Operation.rows_fromNumber, operationTable]

theorem report_eq (d : Drawing) (n : Nat) : line (Listed.table d.canvas.listing) ++ CommandLine.summary d n =
    report d.operationTable.text (d.countTable n).text d.stateTable.text := by
  rw [table_listing, CommandLine.summary, report]
  simp only [List.append_assoc]
  rfl

theorem shows_operationTable (d : Drawing) : d.operationTable.Shows d.operationTable.text := by
  refine Table.shows_text (List.cons_ne_nil _ _) ?_
  intro row hrow
  obtain ⟨p, -, rfl⟩ := List.mem_map.mp hrow
  rfl

theorem shows_countTable (d : Drawing) (n : Nat) : (d.countTable n).Shows (d.countTable n).text :=
  Table.shows_text (List.cons_ne_nil _ _) (List.forall_mem_singleton.mpr rfl)

theorem shows_stateTable (d : Drawing) : d.stateTable.Shows d.stateTable.text :=
  Table.shows_text (List.cons_ne_nil _ _) (List.forall_mem_singleton.mpr rfl)

end Drawing

end Plotter
