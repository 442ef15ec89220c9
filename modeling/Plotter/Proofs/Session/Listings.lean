import Plotter.Proofs.Session.Effects

namespace Plotter

namespace Listed

@[simp] theorem fromNumber_append (n : Nat) (ops more : List Operation) :
    fromNumber n (ops ++ more) = fromNumber n ops ++ fromNumber (n + ops.length) more := by
  induction ops generalizing n with
  | nil => rfl
  | cons op ops ih =>
      have hlength : n + (op :: ops).length = n + 1 + ops.length := by
        rw [List.length_cons, Nat.add_assoc, Nat.add_comm 1]
      rw [hlength]
      simp [fromNumber, ih]

@[simp] theorem fromNumber_eq_nil_iff {n : Nat} {ops : List Operation} : fromNumber n ops = [] ↔ ops = [] := by
  cases ops with
  | nil => simp [fromNumber]
  | cons op ops => simp [fromNumber]

@[simp] theorem map_number (n : Nat) (ops : List Operation) :
    (fromNumber n ops).map (·.number) = List.range' n ops.length := by
  induction ops generalizing n with
  | nil => rfl
  | cons op ops ih => simp [fromNumber, ih, List.range'_succ]

@[simp] theorem map_operation (n : Nat) (ops : List Operation) : (fromNumber n ops).map (·.operation) = ops := by
  induction ops generalizing n with
  | nil => rfl
  | cons op ops ih => simp [fromNumber, ih]

end Listed

theorem Canvas.listingAfter_append {c d : Canvas} {drawn : List Operation}
    (h : d.operations = c.operations ++ drawn) :
    d.listingAfter c.operations.length = Listed.fromNumber (c.operations.length + 1) drawn := by
  rw [listingAfter, h, List.drop_left]

namespace Reply

def message? : Reply → Option Text
  | output message _ => some message
  | quit => none

def table? : Reply → Option (List Listed)
  | output _ (l :: ls) => some (l :: ls)
  | output _ [] | quit => none

theorem text?_eq (reply : Reply) :
    reply.text? = reply.message?.map fun message => reply.table?.elim message fun rows =>
      (if message = [] then [] else Text.line message) ++ Listed.table rows := by
  rcases reply with ⟨message, _ | ⟨l, ls⟩⟩ | _
  · rfl
  · rfl
  · rfl

theorem table?_eq (reply : Reply) :
    reply.table? = if reply.table?.getD [] = [] then none else some (reply.table?.getD []) := by
  rcases reply with ⟨message, _ | ⟨l, ls⟩⟩ | _
  · rfl
  · rfl
  · rfl

def rows (replies : List Reply) : List Listed := (replies.filterMap table?).flatten

@[simp] theorem rows_cons (reply : Reply) (replies : List Reply) :
    rows (reply :: replies) = reply.table?.getD [] ++ rows replies := by
  rw [rows, List.filterMap_cons]
  cases reply.table? with
  | none => rfl
  | some first => rfl

end Reply

namespace Session

theorem Effect.session_of_quit {s : Session} {files : Files} {input : Input} {turn : Turn}
    (h : Effect s files input turn) (hq : turn.reply = .quit) : turn.session = s := by
  cases h with
  | accepted | loaded => cases hq
  | blank | asked | rejected | unread | spoiled | saved | rendered | unwritten => rfl

def replies (s : Session) : List (Files × Text) → List Reply
  | [] => []
  | (files, line) :: inputs => (s.handle files line).reply :: (s.handle files line).session.replies inputs

theorem rows_handle (s : Session) (files : Files) (line : Text) :
    (s.handle files line).reply.table?.getD [] =
      (s.handle files line).session.drawing.canvas.listingAfter s.drawing.canvas.operations.length := by
  have hs := (s.effect_answer files (Input.read line)).session_of_quit
  rw [handle]
  cases hr : (s.answer files (Input.read line)).reply with
  | output message _ =>
      cases (s.answer files (Input.read line)).session.drawing.canvas.listingAfter _ with
      | nil => rfl
      | cons l ls => rfl
  | quit =>
      rw [hs hr, Canvas.listingAfter_self]
      rfl

theorem rows_replies (s : Session) (inputs : List (Files × Text)) :
    Reply.rows (s.replies inputs) =
      (s.after inputs).drawing.canvas.listingAfter s.drawing.canvas.operations.length := by
  induction inputs generalizing s with
  | nil => simp [replies, after, Reply.rows]
  | cons input inputs ih =>
      obtain ⟨files, line⟩ := input
      obtain ⟨drawn, hdrawn⟩ := (s.extends_handle files line).grows.operations
      obtain ⟨more, hmore⟩ := ((s.handle files line).session.extends_after inputs).grows.operations
      have hlast : (s.after ((files, line) :: inputs)).drawing.canvas.operations =
          s.drawing.canvas.operations ++ (drawn ++ more) := by
        rw [after, ← hmore, ← hdrawn, List.append_assoc]
      rw [replies, Reply.rows_cons, ih, rows_handle, Canvas.listingAfter_append hdrawn.symm,
        Canvas.listingAfter_append hmore.symm, Canvas.listingAfter_append hlast, Listed.fromNumber_append, ← hdrawn,
        List.length_append, Nat.add_right_comm]

/-- The tables below the replies number the operations from one on without a gap, and row by row they are the record,
if that was empty at first. There is a table below just those replies whose line has drawn something, and it lists
what was drawn. -/
theorem replies_list_record (pen : Pen) (background : Color) (sheet : Sheet) (log accepted : List Text)
    (inputs : List (Files × Text)) :
    let start : Session := ⟨⟨pen, background, ⟨[], sheet⟩, log⟩, accepted⟩
    let record := (start.after inputs).drawing.canvas.operations
    let rows := Reply.rows (start.replies inputs)
    rows.map (·.number) = List.range' 1 record.length ∧
      rows.map (·.operation) = record ∧
      ∀ (s : Session) (files : Files) (line : Text),
        let turn := s.handle files line
        ∃ drawn, turn.session.drawing.canvas.operations = s.drawing.canvas.operations ++ drawn ∧
          turn.reply.table? = (if drawn = [] then none
            else some (Listed.fromNumber (s.drawing.canvas.operations.length + 1) drawn)) ∧
          turn.reply.text? = turn.reply.message?.map fun message => turn.reply.table?.elim message fun rows =>
            (if message = [] then [] else Text.line message) ++
              Table.text ⟨["#".toList, "op".toList, "geometry".toList, "color".toList, "filled".toList],
                rows.map Listed.row⟩ := by
  intro start record rows
  have hrows : rows = Listed.fromNumber 1 record := start.rows_replies inputs
  refine ⟨?_, ?_, ?_⟩
  · simp [hrows]
  · simp [hrows]
  · intro s files line turn
    obtain ⟨drawn, hdrawn⟩ := (s.extends_handle files line).grows.operations
    have htable : turn.reply.table?.getD [] = Listed.fromNumber (s.drawing.canvas.operations.length + 1) drawn := by
      rw [s.rows_handle files line, Canvas.listingAfter_append hdrawn.symm]
    refine ⟨drawn, hdrawn.symm, ?_, turn.reply.text?_eq⟩
    rw [turn.reply.table?_eq, htable]
    simp

end Session

end Plotter
