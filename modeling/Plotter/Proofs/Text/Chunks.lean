import Mathlib.Tactic.SplitIfs
import Plotter.Proofs.Text.Pieces
import Plotter.Proofs.Text.Trimming
import Plotter.Text

namespace Plotter

namespace Text

variable {c : Char} {t : Text}

@[simp] theorem encode_nil : encode [] = [] := rfl

@[simp] theorem encode_append (s t : Text) : encode (s ++ t) = encode s ++ encode t := List.flatMap_append

@[simp] theorem encode_newline (t : Text) : encode ('\n' :: t) = 10 :: encode t := rfl

theorem newline_not_mem_utf8EncodeChar (h : c ≠ '\n') : 10 ∉ String.utf8EncodeChar c := by
  have hc : c.val.toNat ≠ 10 := fun he => h (Char.toNat_inj.mp he)
  have hne {n : Nat} (hn : n % 256 ≠ 10) : (10 : UInt8) ≠ UInt8.ofNat n := by
    intro he
    have hv := congrArg UInt8.toNat he
    rw [UInt8.toNat_ofNat'] at hv
    exact hn hv.symm
  rw [String.utf8EncodeChar]
  -- A single byte is the character itself, and all bytes of a longer sequence are at least 128.
  split_ifs with h₁ h₂ h₃
  · simp only [List.mem_cons, List.not_mem_nil, or_false]
    exact hne (by omega)
  · simp only [List.mem_cons, List.not_mem_nil, or_false, not_or]
    exact ⟨hne (by omega), hne (by omega)⟩
  · simp only [List.mem_cons, List.not_mem_nil, or_false, not_or]
    exact ⟨hne (by omega), hne (by omega), hne (by omega)⟩
  · simp only [List.mem_cons, List.not_mem_nil, or_false, not_or]
    exact ⟨hne (by omega), hne (by omega), hne (by omega), hne (by omega)⟩

theorem newline_not_mem_encode (h : '\n' ∉ t) : 10 ∉ encode t := by
  intro hb
  obtain ⟨c, hc, hb⟩ := List.mem_flatMap.mp hb
  have hne : c ≠ '\n' := by
    rintro rfl
    exact h hc
  exact newline_not_mem_utf8EncodeChar hne hb

theorem encode_ne_nil (h : t ≠ []) : encode t ≠ [] := by
  obtain ⟨c, t, rfl⟩ := List.exists_cons_of_ne_nil h
  intro he
  rw [encode, List.flatMap_cons, List.append_eq_nil_iff] at he
  exact String.utf8EncodeChar_ne_nil he.1

/-- The pieces of a text, each with the line feed that ended it. -/
def withNewlines : List Text → List Text
  | [] => []
  | [t] => if t = [] then [] else [t]
  | t :: u :: ts => line t :: withNewlines (u :: ts)

end Text

namespace Bytes

variable {bytes : Bytes}

theorem chunks_append_newline (h : 10 ∉ bytes) (rest : Bytes) :
    chunks (bytes ++ 10 :: rest) = (bytes ++ [10]) :: chunks rest := by
  induction bytes with
  | nil => rfl
  | cons b bytes ih =>
      rw [List.mem_cons, not_or] at h
      rw [List.cons_append, chunks, if_neg (Ne.symm h.1), ih h.2]
      rfl

theorem chunks_eq_singleton (hne : bytes ≠ []) (h : 10 ∉ bytes) : chunks bytes = [bytes] := by
  induction bytes with
  | nil => exact absurd rfl hne
  | cons b bytes ih =>
      rw [List.mem_cons, not_or] at h
      rw [chunks, if_neg (Ne.symm h.1)]
      by_cases hb : bytes = []
      · rw [hb]
        rfl
      · rw [ih hb h.2]

open Text (encode withNewlines)

theorem chunks_encode_join {ts : List Text} (h : ∀ t ∈ ts, '\n' ∉ t) :
    chunks (encode (Text.join '\n' ts)) = (withNewlines ts).map encode := by
  induction ts with
  | nil => rfl
  | cons t ts ih =>
      have ht : 10 ∉ encode t := Text.newline_not_mem_encode (h t List.mem_cons_self)
      cases ts with
      | nil =>
          rw [Text.join_singleton, withNewlines]
          split
          next he =>
            rw [he]
            rfl
          next hne => rw [chunks_eq_singleton (Text.encode_ne_nil hne) ht, List.map_singleton]
      | cons u us =>
          have hrest := ih fun v hv => h v (List.mem_cons_of_mem _ hv)
          simp [withNewlines, Text.line, chunks_append_newline ht, hrest]

theorem chunks_encode (t : Text) : chunks (encode t) = (withNewlines (t.splitOn '\n')).map encode := by
  rw [← chunks_encode_join fun _ hs => Text.not_mem_of_mem_splitOn hs, Text.join_splitOn]

end Bytes

end Plotter
