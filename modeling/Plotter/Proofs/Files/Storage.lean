import Plotter.Files
import Plotter.Proofs.Text.Encoding

namespace Plotter

namespace Files

def bytes? (f : Files) (path : Text) : Option Bytes :=
  match f.resolve path with
  | .error _ => none
  | .ok location =>
    match f.lookup? location with
    | some (.file bytes) => some bytes
    | some .directory | none => none

def Writable (f : Files) (path : Text) : Prop := ∃ content written, f.write path content = .ok written

variable {f written : Files} {k l location : Location} {entry : Entry} {path content : Text} {bytes : Bytes}

@[simp] theorem find?_replace (es : List (Location × Entry)) (l : Location) (entry : Entry) (k : Location) :
    find? (replace es l entry) k = if l = k then some entry else find? es k := by
  induction es with
  | nil => rfl
  | cons e es ih =>
      obtain ⟨m, old⟩ := e
      by_cases hm : m = l
      · subst hm
        by_cases hk : m = k <;> simp [replace, find?, hk]
      · by_cases hk : m = k
        · subst hk
          simp [replace, find?, hm, Ne.symm hm]
        · simp [replace, find?, hm, hk, ih]

@[simp] theorem lookup?_put_self (h : f.lookup? l ≠ some .directory) (entry : Entry) :
    (f.put l entry).lookup? l = some entry := by
  have hfixed : l.isFixed = false := by
    cases hf : l.isFixed with
    | false => rfl
    | true => exact absurd (by rw [lookup?, if_pos hf]) h
  simp [lookup?, hfixed, put]

@[simp] theorem lookup?_put_ne (h : l ≠ k) (entry : Entry) : (f.put l entry).lookup? k = f.lookup? k := by
  simp [lookup?, put, h]

theorem follow_mono (h : ∀ m, f.lookup? m = some .directory → written.lookup? m = some .directory)
    {names : List Text} (hf : f.follow k names = .ok location) : written.follow k names = .ok location := by
  -- What a walk needs of the files is that each place it leaves is a directory.
  induction names generalizing k with
  | nil => exact hf
  | cons name names ih =>
      rw [follow] at hf ⊢
      cases hk : f.lookup? k with
      | none => simp [hk] at hf
      | some e =>
          cases e with
          | file bytes => simp [hk] at hf
          | directory =>
              rw [h k hk]
              simp only [hk] at hf ⊢
              split at hf
              next => cases hf
              next hlong =>
                rw [if_neg hlong]
                exact ih hf

theorem resolve_mono (h : ∀ m, f.lookup? m = some .directory → written.lookup? m = some .directory)
    (hr : f.resolve path = .ok location) : written.resolve path = .ok location := by
  rw [resolve, walk] at hr ⊢
  cases hp : Path.fault? path with
  | some cause => simp [hp] at hr
  | none =>
      simp only [hp] at hr ⊢
      exact follow_mono h hr

theorem resolve_put (h : f.lookup? l ≠ some .directory) (entry : Entry) (hr : f.resolve path = .ok location) :
    (f.put l entry).resolve path = .ok location := by
  refine resolve_mono ?_ hr
  intro m hm
  have hne : l ≠ m := by
    rintro rfl
    exact h hm
  simp [hne, hm]

theorem target_eq_ok_iff :
    f.target path = .ok location ↔ path.getLast? ≠ some '/' ∧ f.resolve path = .ok location := by
  rw [target]
  split
  next hslash =>
    cases f.walk path (Path.stepsToParent path) <;> simp [hslash]
  next hslash => simp [hslash]

@[simp] theorem mapError_eq_ok_iff {α : Type} {x : Except FileCause α} {g : FileCause → FileError} {a : α} :
    x.mapError g = .ok a ↔ x = .ok a := by
  cases x with
  | error cause => exact ⟨nofun, nofun⟩
  | ok b =>
      constructor <;>
      · rintro ⟨⟩
        rfl

theorem store_eq_ok_iff : f.store content l = .ok written ↔
    f.lookup? l ≠ some .directory ∧ written = f.put l (.file content.encode) := by
  rw [store]
  split
  next h => simp [h]
  next h => simp [h, eq_comm]
  next h => simp [h, eq_comm]

theorem write_eq_ok_iff : f.write path content = .ok written ↔
    ∃ location, f.target path = .ok location ∧ f.lookup? location ≠ some .directory ∧
      written = f.put location (.file content.encode) := by
  rw [write, mapError_eq_ok_iff]
  cases ht : f.target path with
  | error cause => simp [Except.bind]
  | ok l => simp [Except.bind, store_eq_ok_iff]

theorem bytes?_eq_some_iff : f.bytes? path = some bytes ↔
    ∃ location, f.resolve path = .ok location ∧ f.lookup? location = some (.file bytes) := by
  rw [bytes?]
  cases hr : f.resolve path with
  | error cause => simp
  | ok l =>
      cases hl : f.lookup? l with
      | none => simp [hl]
      | some e => cases e <;> simp [hl]

theorem bytes?_write (h : f.write path content = .ok written) : written.bytes? path = some content.encode := by
  obtain ⟨location, ht, hl, rfl⟩ := write_eq_ok_iff.mp h
  obtain ⟨-, hr⟩ := target_eq_ok_iff.mp ht
  exact bytes?_eq_some_iff.mpr ⟨location, resolve_put hl _ hr, lookup?_put_self hl _⟩

/-- Only the file that the path leads to has changed, or is new, and it holds the text. -/
def Stored (f : Files) (path content : Text) (written : Files) : Prop :=
  ∃ location, f.resolve path = .ok location ∧ written.resolve path = .ok location ∧
    ∀ l, written.lookup? l = if l = location then some (.file content.encode) else f.lookup? l

theorem stored_of_write (h : f.write path content = .ok written) : f.Stored path content written := by
  obtain ⟨location, ht, hl, rfl⟩ := write_eq_ok_iff.mp h
  obtain ⟨-, hr⟩ := target_eq_ok_iff.mp ht
  refine ⟨location, hr, resolve_put hl _ hr, ?_⟩
  intro l
  by_cases he : l = location
  · simp [he, hl]
  · simp [he, Ne.symm he]

theorem Writable.ne_nil (h : f.Writable path) : path ≠ [] := by
  rintro rfl
  obtain ⟨content, written, hw⟩ := h
  obtain ⟨location, ht, -, -⟩ := write_eq_ok_iff.mp hw
  cases ht

theorem Writable.write (h : f.Writable path) (content : Text) :
    ∃ written, f.write path content = .ok written := by
  obtain ⟨other, written, hw⟩ := h
  obtain ⟨location, ht, hl, -⟩ := write_eq_ok_iff.mp hw
  exact ⟨_, write_eq_ok_iff.mpr ⟨location, ht, hl, rfl⟩⟩

theorem contents_eq_ok_iff : f.contents l = .ok content ↔ f.lookup? l = some (.file content.encode) := by
  rw [contents]
  cases hl : f.lookup? l with
  | none => simp
  | some e =>
      cases e with
      | directory => simp
      | file bytes =>
          rw [Option.some_inj, Entry.file.injEq, ← Text.decode?_eq_some_iff]
          cases hd : Text.decode? bytes <;> simp [hd]

theorem read_eq_ok_iff : f.read path = .ok content ↔ f.bytes? path = some content.encode := by
  rw [read, mapError_eq_ok_iff, bytes?_eq_some_iff]
  cases f.resolve path with
  | error cause => simp [Except.bind]
  | ok l => simp [Except.bind, contents_eq_ok_iff]

theorem read_of_bytes? (h : f.bytes? path = some content.encode) : f.read path = .ok content := read_eq_ok_iff.mpr h

end Files

end Plotter
