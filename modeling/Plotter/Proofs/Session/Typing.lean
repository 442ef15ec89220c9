import Plotter.Proofs.Session.Reload
import Plotter.Proofs.Text.Chunks

namespace Plotter

open Command (AllRead)
open Request (typed)
open Text (encode decode? withNewlines)

@[simp] theorem Text.trim_line (t : Text) : (line t).trim = t.trim := by
  apply trim_append_blanks
  intro c hc
  rw [List.mem_singleton.mp hc]
  rfl

namespace Line

@[simp] theorem texts_withNewlines (ts : List Text) : texts (withNewlines ts) = texts ts := by
  induction ts with
  | nil => rfl
  | cons t ts ih =>
      cases ts with
      | nil =>
          rw [withNewlines]
          split
          next h =>
            rw [h]
            rfl
          next => rfl
      | cons u us =>
          rw [withNewlines]
          by_cases hb : t.trim = []
          · simp [hb, ih]
          · simp [hb, ih]

def legible (ts : List Text) : List Text := ts.filter fun t => (Command.read t).isOk

variable {t : Text} {ts : List Text} {c : Command} {e : CommandError}

theorem legible_cons_ok (h : Command.read t = .ok c) : legible (t :: ts) = t :: legible ts := by
  rw [legible, List.filter_cons_of_pos (by rw [h]; rfl), legible]

theorem legible_cons_error (h : Command.read t = .error e) : legible (t :: ts) = legible ts := by
  rw [legible, List.filter_cons_of_neg (by rw [h]; exact Bool.false_ne_true), legible]

theorem exists_allRead_legible (ts : List Text) : ∃ cs, AllRead (legible ts) cs := by
  induction ts with
  | nil => exact ⟨[], .nil⟩
  | cons t ts ih =>
      obtain ⟨cs, hr⟩ := ih
      cases hread : Command.read t with
      | error e =>
          rw [legible_cons_error hread]
          exact ⟨cs, hr⟩
      | ok c =>
          rw [legible_cons_ok hread]
          exact ⟨c :: cs, .cons hread hr⟩

theorem legible_eq_self {cs : List Command} (h : AllRead ts cs) : legible ts = ts := by
  apply List.filter_eq_self.mpr
  intro t ht
  obtain ⟨c, hc⟩ := h.exists_read ht
  rw [hc]
  rfl

end Line

open Line (legible texts)

namespace Input

variable {line : Text}

theorem read_blank (h : line.trim = []) : Input.read line = .blank := by rw [Input.read, h]

theorem read_command (hb : line.trim ≠ []) (hc : line.trim.head? ≠ some ':') :
    Input.read line = .command line.trim := by
  obtain ⟨c, rest, ht⟩ := List.exists_cons_of_ne_nil hb
  rw [ht] at hc
  rw [Input.read, ht]
  split
  next h => cases h
  next h =>
    cases h
    exact absurd rfl hc
  next h =>
    cases h
    rfl

end Input

namespace Session

variable {files : Files} {line source : Text} {ts : List Text}

def enterAll (s : Session) (ts : List Text) : Session := ts.foldl (fun s t => (s.enter t).2) s

@[simp] theorem enterAll_append (s : Session) (ts us : List Text) :
    s.enterAll (ts ++ us) = (s.enterAll ts).enterAll us :=
  List.foldl_append

theorem enterAll_eq {cs : List Command} (s : Session) (h : AllRead (legible ts) cs) :
    s.enterAll ts = ⟨cs.foldl Drawing.execute s.drawing, s.accepted ++ legible ts⟩ := by
  induction ts generalizing s cs with
  | nil =>
      cases h
      rw [legible, List.filter_nil, List.append_nil]
      rfl
  | cons t ts ih =>
      have hcons : s.enterAll (t :: ts) = (s.enter t).2.enterAll ts := rfl
      cases hread : Command.read t with
      | error e =>
          rw [Line.legible_cons_error hread] at h ⊢
          rw [hcons, enter, Drawing.enter_error hread]
          exact ih s h
      | ok c =>
          rw [Line.legible_cons_ok hread] at h ⊢
          cases h with
          | cons hc h =>
              obtain rfl : c = _ := Except.ok.inj (hread.symm.trans hc)
              rw [hcons, enter, Drawing.enter_ok hread, ih _ h, List.append_assoc]
              rfl

theorem run_eq_enterAll {n : Nat} (s : Session) (h : validate source = .ok n) :
    (s.run source).2 = s.enterAll (texts (source.splitOn '\n')) ∧
      s.drawing.run source = ((s.enterAll (texts (source.splitOn '\n'))).drawing, .ok n) := by
  obtain ⟨cs, hr, hrun⟩ := Drawing.exists_allRead_of_validate s.drawing h
  have hlegible := Line.legible_eq_self hr
  rw [s.enterAll_eq (by rwa [hlegible]), hlegible, run_ok hrun, hrun]
  exact ⟨rfl, rfl⟩

theorem handle_line (s : Session) (files : Files) (h : ∀ t ∈ texts [line], t.head? ≠ some ':') :
    ∃ message listing, s.handle files line = ⟨.output message listing, s.enterAll (texts [line]), files⟩ := by
  by_cases hb : line.trim = []
  · rw [Line.texts_cons_blank hb, handle, Input.read_blank hb]
    exact ⟨_, _, rfl⟩
  · rw [Line.texts_cons hb] at h ⊢
    rw [handle, Input.read_command hb (h _ List.mem_cons_self)]
    exact ⟨_, _, rfl⟩

theorem session_load {path : Text} (s : Session) (h : files.read path.trim = .ok source) :
    (s.handle files (typed "load".toList path)).session = (s.run source).2 := by
  have hp : path.trim ≠ [] := by
    intro hp
    rw [hp] at h
    cases h
  rw [handle_load s hp h]

end Session

namespace Conversation

variable {s next : Session} {files written : Files} {line message : Text} {listing : List Listed}

theorem hear_output (h : s.handle files line = ⟨.output message listing, next, written⟩) :
    ∃ output, hear s files (encode line) = .goesOn output next written := by
  obtain ⟨shown, hshown⟩ : ∃ shown, (Reply.output message listing).text? = some shown := by
    cases listing with
    | nil => exact ⟨_, rfl⟩
    | cons l ls => exact ⟨_, rfl⟩
  rw [hear, Text.decode?_encode]
  simp only [h, hshown]
  cases shown with
  | nil => exact ⟨_, rfl⟩
  | cons c shown => exact ⟨_, rfl⟩

theorem hold_encode (s : Session) (files : Files) {us : List Text} (h : ∀ t ∈ texts us, t.head? ≠ some ':') :
    ∃ output, hold s files (us.map encode) = ⟨output, s.enterAll (texts us), files, none⟩ := by
  induction us generalizing s with
  | nil => exact ⟨_, rfl⟩
  | cons u us ih =>
      rw [show u :: us = [u] ++ us from rfl, Line.texts_append] at h ⊢
      obtain ⟨message, listing, hu⟩ := s.handle_line files fun t ht => h t (List.mem_append_left _ ht)
      obtain ⟨first, hfirst⟩ := hear_output hu
      obtain ⟨rest, hrest⟩ := ih (s.enterAll (texts [u])) fun t ht => h t (List.mem_append_right _ ht)
      refine ⟨prompt ++ first ++ rest, ?_⟩
      rw [List.singleton_append, List.map_cons, hold, hfirst]
      simp [hrest]

end Conversation

namespace Session

/-- Typed line by line, a text without requests has those of its lines accepted that hold commands, and these
make up the program of what it draws. If all of them do, the text might as well be loaded from a file, and from
an empty session on it might be run from one. -/
theorem typed_program (s : Session) (files : Files) (source : Text)
    (h : ∀ l ∈ Line.ofSource source, l.text.head? ≠ some ':') :
    let talk := Conversation.hold s files (Bytes.chunks (encode source))
    let kept := ((Line.ofSource source).map (·.text)).filter fun t => (Command.read t).isOk
    talk.failure = none ∧ talk.files = files ∧
      talk.session.accepted = s.accepted ++ kept ∧
      s.drawing.run (Text.join '\n' kept) = (talk.session.drawing, .ok kept.length) ∧
      ∀ n, validate source = .ok n → ∀ later path, later.read (Text.trim path) = .ok source →
        (s.handle later (typed "load".toList path)).session = talk.session ∧
          ∀ options, s = blank options.size options.background →
            (Drawing.blank options.size options.background).run source = (talk.session.drawing, .ok n) ∧
            ∀ input target, options.svg = some target → later.Writable target →
              let transcript := CommandLine.perform later input (.run path.trim options)
              transcript.failure = none ∧
                transcript.files.bytes? target = some talk.session.drawing.canvas.sheet.document.encode := by
  intro talk kept
  have htexts : (Line.ofSource source).map (·.text) = texts (source.splitOn '\n') := Line.map_text_numbered 1 _
  have hkept : kept = legible (texts (source.splitOn '\n')) := by
    rw [← htexts]
    rfl
  have hcolon : ∀ t ∈ texts (withNewlines (source.splitOn '\n')), t.head? ≠ some ':' := by
    rw [Line.texts_withNewlines, ← htexts]
    intro t ht
    obtain ⟨l, hl, rfl⟩ := List.mem_map.mp ht
    exact h l hl
  obtain ⟨output, htalk⟩ := Conversation.hold_encode s files hcolon
  rw [← Bytes.chunks_encode, Line.texts_withNewlines] at htalk
  rw [show talk = _ from htalk, hkept]
  obtain ⟨cs, hr⟩ := Line.exists_allRead_legible (texts (source.splitOn '\n'))
  refine ⟨rfl, rfl, ?_, ?_, ?_⟩
  · rw [s.enterAll_eq hr]
  · rw [s.enterAll_eq hr, Drawing.run_join _ hr, hr.length_eq]
  · intro n hv later path hread
    obtain ⟨hload, hrun⟩ := s.run_eq_enterAll hv
    refine ⟨by rw [s.session_load hread, hload], ?_⟩
    rintro options rfl
    refine ⟨hrun, ?_⟩
    intro input target hsvg htarget
    exact CommandLine.perform_run input hread hrun hsvg htarget

theorem typed_circle_program :
    let source := "fill on\r\n\n Circle 2".toList
    let talk := Conversation.hold (blank ⟨10, 10⟩ .white) ⟨[]⟩ (Bytes.chunks (encode source))
    let later : Files := ⟨[(["a".toList], .file (encode source))]⟩
    (∀ l ∈ Line.ofSource source, l.text.head? ≠ some ':') ∧ validate source = .ok 2 ∧
      talk.session.accepted = ["fill on".toList, "Circle 2".toList] ∧
      ((blank ⟨10, 10⟩ .white).handle later (typed "load".toList "a".toList)).session = talk.session ∧
      (CommandLine.perform later [] (.run "a".toList ⟨some "b".toList, ⟨10, 10⟩, .white, false⟩)).failure = none := by
  intro source talk later
  have h : ∀ l ∈ Line.ofSource source, l.text.head? ≠ some ':' := by decide +kernel
  have hv : validate source = .ok 2 := by decide +kernel
  have hread : later.read (Text.trim "a".toList) = .ok source := Files.read_of_bytes? rfl
  obtain ⟨-, -, haccepted, -, hvalid⟩ := typed_program (blank ⟨10, 10⟩ .white) ⟨[]⟩ source h
  obtain ⟨hload, hrun⟩ := hvalid 2 hv later "a".toList hread
  refine ⟨h, hv, haccepted.trans (by decide +kernel), hload, ?_⟩
  exact ((hrun ⟨some "b".toList, ⟨10, 10⟩, .white, false⟩ rfl).2 [] _ rfl ⟨[], _, rfl⟩).1

end Session

end Plotter
