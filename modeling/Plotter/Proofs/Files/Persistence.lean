import Plotter.Proofs.Files.Storage

namespace Plotter

inductive Access
  | save (path text : Text)
  | load (path : Text)

namespace Files

def accessed (f : Files) : Access → Files
  | .save path text =>
    match f.write path text with
    | .ok written => written
    | .error _ => f
  | .load _ => f

def after (f : Files) : List Access → Files
  | [] => f
  | a :: as => (f.accessed a).after as

/-- The text that an access writes to a location, if it is a save that succeeds and its path leads there. -/
def saved? (f : Files) (location : Location) : Access → Option Text
  | .save path text =>
    match f.resolve path, f.write path text with
    | .ok l, .ok _ => if l = location then some text else none
    | _, _ => none
  | .load _ => none

def lastSaved? (f : Files) (location : Location) : List Access → Option Text
  | [] => none
  | a :: as => ((f.accessed a).lastSaved? location as).or (f.saved? location a)

variable {f written : Files} {l location : Location} {path text : Text} {bytes : Bytes} {entry : Entry}

theorem accessed_cases (f : Files) (a : Access) : f.accessed a = f ∧ (∀ l, f.saved? l a = none) ∨
    ∃ path text, a = .save path text ∧ f.write path text = .ok (f.accessed a) := by
  cases a with
  | load path => exact .inl ⟨rfl, fun l => rfl⟩
  | save path text =>
      cases hw : f.write path text with
      | error e => exact .inl ⟨by rw [accessed, hw], fun l => by simp [saved?, hw]⟩
      | ok written => exact .inr ⟨path, text, rfl, by rw [accessed, hw]⟩

theorem lookup?_accessed (f : Files) (a : Access) (l : Location) : (f.accessed a).lookup? l =
    ((f.saved? l a).map fun text => Entry.file text.encode).or (f.lookup? l) := by
  obtain ⟨hsame, hnone⟩ | ⟨path, text, rfl, hw⟩ := accessed_cases f a
  · rw [hsame, hnone, Option.map_none, Option.none_or]
  · obtain ⟨location, hr, -, hl⟩ := stored_of_write hw
    rw [hl, saved?, hr, hw]
    by_cases h : l = location
    · simp [h]
    · simp [h, Ne.symm h]

@[simp] theorem directory_accessed_iff (f : Files) (a : Access) (l : Location) :
    (f.accessed a).lookup? l = some .directory ↔ f.lookup? l = some .directory := by
  obtain ⟨hsame, -⟩ | ⟨path, text, rfl, hw⟩ := accessed_cases f a
  · rw [hsame]
  · obtain ⟨location, -, hne, hput⟩ := write_eq_ok_iff.mp hw
    rw [hput]
    by_cases h : location = l
    · subst h
      simp [hne]
    · simp [h]

@[simp] theorem resolve_accessed_iff (f : Files) (a : Access) :
    (f.accessed a).resolve path = .ok l ↔ f.resolve path = .ok l :=
  ⟨resolve_mono fun m => (directory_accessed_iff f a m).mp, resolve_mono fun m => (directory_accessed_iff f a m).mpr⟩

/-- An entry is as the last save that led to it has left it, or as it was if there was none. -/
theorem lookup?_after (f : Files) (accesses : List Access) (l : Location) : (f.after accesses).lookup? l =
    ((f.lastSaved? l accesses).map fun text => Entry.file text.encode).or (f.lookup? l) := by
  induction accesses generalizing f with
  | nil => rfl
  | cons a accesses ih =>
      -- What the later accesses leave alone is as the first one has left it.
      rw [after, lastSaved?, ih, lookup?_accessed, Option.map_or, Option.or_assoc]

@[simp] theorem resolve_after_iff (f : Files) (accesses : List Access) :
    (f.after accesses).resolve path = .ok l ↔ f.resolve path = .ok l := by
  induction accesses generalizing f with
  | nil => rfl
  | cons a accesses ih => simp [after, ih]

theorem read_after (h : f.lookup? location = some (.file (Text.encode text))) {accesses : List Access}
    (hlast : f.lastSaved? location accesses = none) (hr : f.resolve path = .ok location) :
    (f.after accesses).read path = .ok text := by
  rw [read_eq_ok_iff, bytes?_eq_some_iff]
  refine ⟨location, (resolve_after_iff f accesses).mpr hr, ?_⟩
  rw [lookup?_after, hlast, h, Option.map_none, Option.none_or]

theorem exists_read_iff (h : f.bytes? path = some bytes) : (∃ text, f.read path = .ok text) ↔ bytes.WellFormed := by
  simp only [read_eq_ok_iff, h, Option.some.injEq, Bytes.wellFormed_iff]

theorem follow_append (k : Location) (names more : List Text) :
    f.follow k (names ++ more) = (f.follow k names).bind fun m => f.follow m more := by
  induction names generalizing k with
  | nil => rfl
  | cons name names ih =>
      rw [List.cons_append, follow, follow]
      cases f.lookup? k with
      | none => rfl
      | some e =>
          cases e with
          | file bytes => rfl
          | directory =>
              simp only
              split
              next => rfl
              next => exact ih _

theorem directory_of_follow (h : f.follow location [[]] = .ok l) : f.lookup? l = some .directory := by
  rw [follow] at h
  cases hk : f.lookup? location with
  | none => simp [hk] at h
  | some e =>
      cases e with
      | file bytes => simp [hk] at h
      | directory =>
          have hl : location = l := by simpa [hk, follow, Location.step, Text.encode] using h
          rw [← hl, hk]

theorem directory_of_slash (hslash : path.getLast? = some '/') (hr : f.resolve path = .ok l) :
    f.lookup? l = some .directory := by
  obtain ⟨front, rfl⟩ := List.getLast?_eq_some_iff.mp hslash
  rw [resolve, walk] at hr
  cases hp : Path.fault? (front ++ ['/']) with
  | some cause => simp [hp] at hr
  | none =>
      have hsteps : Path.steps (front ++ ['/']) = front.splitOn '/' ++ [[]] := List.splitOn_append_cons_self front []
      simp only [hp, hsteps, follow_append] at hr
      cases hf : f.follow (Path.start (front ++ ['/'])) (front.splitOn '/') with
      | error cause => simp [hf, Except.bind] at hr
      | ok m =>
          rw [hf] at hr
          exact directory_of_follow hr

theorem replace_self {es : List (Location × Entry)} (h : find? es l = some entry) : replace es l entry = es := by
  induction es with
  | nil => cases h
  | cons e es ih =>
      obtain ⟨m, old⟩ := e
      rw [find?] at h
      rw [replace]
      split at h
      next hm =>
        cases h
        rw [if_pos hm]
      next hm => rw [if_neg hm, ih h]

theorem put_self (h : f.lookup? l = some (.file bytes)) : f.put l (.file bytes) = f := by
  rw [lookup?] at h
  split at h
  next => cases h
  next => rw [put, replace_self h]

theorem write_of_read (h : f.read path = .ok text) : f.write path text = .ok f := by
  obtain ⟨location, hr, hl⟩ := bytes?_eq_some_iff.mp (read_eq_ok_iff.mp h)
  have hfile : f.lookup? location ≠ some .directory := by simp [hl]
  have hslash : path.getLast? ≠ some '/' := fun hslash => hfile (directory_of_slash hslash hr)
  exact write_eq_ok_iff.mpr ⟨location, target_eq_ok_iff.mpr ⟨hslash, hr⟩, hfile, (put_self hl).symm⟩

/-- What is saved is kept verbatim, and so is what is loaded. A file holds the text of the last successful save that
led to it, by whatever path, and no other access changes anything. The files that can be loaded are those of
well-formed UTF-8, and the loaded text has their bytes. -/
theorem kept_verbatim (f : Files) (path : Text) :
    (∀ text written, f.write path text = .ok written → ∃ location, f.resolve path = .ok location ∧
      (∀ l, written.lookup? l = if l = location then some (.file text.encode) else f.lookup? l) ∧
      ∀ accesses, written.lastSaved? location accesses = none → ∀ other, f.resolve other = .ok location →
        (written.after accesses).read other = .ok text) ∧
    (∀ accesses l, (f.after accesses).lookup? l =
      ((f.lastSaved? l accesses).map fun text => Entry.file text.encode).or (f.lookup? l)) ∧
    (∀ a, f.accessed a = f ∨ ∃ other text, a = .save other text ∧ f.write other text = .ok (f.accessed a)) ∧
    (∀ bytes, f.bytes? path = some bytes → ((∃ text, f.read path = .ok text) ↔ bytes.WellFormed)) ∧
    ∀ text, f.read path = .ok text → f.bytes? path = some text.encode ∧ f.write path text = .ok f := by
  refine ⟨?_, lookup?_after f, ?_, fun bytes => exists_read_iff, ?_⟩
  · intro text written hw
    obtain ⟨location, hr, -, hl⟩ := stored_of_write hw
    refine ⟨location, hr, hl, ?_⟩
    intro accesses hlast other ho
    have hfile : written.lookup? location = some (.file text.encode) := by rw [hl, if_pos rfl]
    have hwritten : written = f.accessed (.save path text) := by rw [accessed, hw]
    have hother : written.resolve other = .ok location := by simpa [hwritten] using ho
    exact read_after hfile hlast hother
  · intro a
    exact (accessed_cases f a).imp And.left id
  · intro text hr
    exact ⟨read_eq_ok_iff.mp hr, write_of_read hr⟩

example : (Files.mk [([['a']], .file [0xC0, 0xAF])]).read ['a'] = .error (.read ['a'] .notText) := by rfl

example : (Files.mk [([['a']], .file [0xC3, 0xA9])]).read ['a'] = .ok ['é'] := by rfl

end Files

end Plotter
