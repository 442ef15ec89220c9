import Mathlib.Tactic.SplitIfs
import Plotter.Text

namespace Plotter

namespace Bytes

def Continues (b : UInt8) : Prop := 0x80 ≤ b.toNat ∧ b.toNat < 0xC0

/-- A leading byte, which tells how many bytes continue it. -/
inductive Pattern : Bytes → Prop
  | one {a : UInt8} (ha : a.toNat < 0x80) : Pattern [a]
  | two {a b : UInt8} (ha : 0xC0 ≤ a.toNat ∧ a.toNat < 0xE0) (hb : Continues b) : Pattern [a, b]
  | three {a b c : UInt8} (ha : 0xE0 ≤ a.toNat ∧ a.toNat < 0xF0) (hb : Continues b) (hc : Continues c) :
      Pattern [a, b, c]
  | four {a b c d : UInt8} (ha : 0xF0 ≤ a.toNat ∧ a.toNat < 0xF8) (hb : Continues b) (hc : Continues c)
      (hd : Continues d) : Pattern [a, b, c, d]

def extend (n : Nat) (b : UInt8) : Nat := n * 64 + b.toNat % 64

/-- The number in the bits of a pattern that its form leaves free. -/
def number : Bytes → Nat
  | [a] => a.toNat
  | [a, b] => extend (a.toNat % 32) b
  | [a, b, c] => extend (extend (a.toNat % 16) b) c
  | [a, b, c, d] => extend (extend (extend (a.toNat % 8) b) c) d
  | _ => 0

/-- The bytes of one character. They would be overlong if a shorter pattern had the same number. -/
structure Character (bytes : Bytes) : Prop where
  pattern : Pattern bytes
  notOverlong : ∀ other, Pattern other → number other = number bytes → bytes.length ≤ other.length
  notSurrogate : number bytes < 0xD800 ∨ 0xDFFF < number bytes
  inRange : number bytes ≤ 0x10FFFF

inductive WellFormed : Bytes → Prop
  | nil : WellFormed []
  | append {bytes rest : Bytes} (h : Character bytes) (hrest : WellFormed rest) : WellFormed (bytes ++ rest)

variable {bytes other : Bytes} {c : Char} {t : Text}

theorem extend_inj {m n : Nat} {b c : UInt8} (hb : Continues b) (hc : Continues c) (h : extend m b = extend n c) :
    m = n ∧ b = c := by
  rw [extend, extend] at h
  rw [Continues] at hb hc
  rw [← UInt8.toNat_inj]
  omega

theorem extend_lt {n k : Nat} (h : n < k) (b : UInt8) : extend n b < k * 64 := by
  rw [extend]
  omega

theorem Pattern.eq_of_number (h : Pattern bytes) (ho : Pattern other) (hn : number bytes = number other)
    (hlength : bytes.length = other.length) : bytes = other := by
  cases h with
  | one ha =>
      cases ho with
      | one ha' =>
          rw [number, number, UInt8.toNat_inj] at hn
          rw [hn]
      | _ => cases hlength
  | @two a b ha hb =>
      cases ho with
      | @two a' b' ha' hb' =>
          obtain ⟨hfree, rfl⟩ := extend_inj hb hb' hn
          have hlead : a = a' := UInt8.toNat_inj.mp (by omega)
          rw [hlead]
      | _ => cases hlength
  | @three a b c ha hb hc =>
      cases ho with
      | @three a' b' c' ha' hb' hc' =>
          obtain ⟨hrest, rfl⟩ := extend_inj hc hc' hn
          obtain ⟨hfree, rfl⟩ := extend_inj hb hb' hrest
          have hlead : a = a' := UInt8.toNat_inj.mp (by omega)
          rw [hlead]
      | _ => cases hlength
  | @four a b c d ha hb hc hd =>
      cases ho with
      | @four a' b' c' d' ha' hb' hc' hd' =>
          obtain ⟨hlast, rfl⟩ := extend_inj hd hd' hn
          obtain ⟨hrest, rfl⟩ := extend_inj hc hc' hlast
          obtain ⟨hfree, rfl⟩ := extend_inj hb hb' hrest
          have hlead : a = a' := UInt8.toNat_inj.mp (by omega)
          rw [hlead]
      | _ => cases hlength

theorem toNat_le (c : Char) : c.toNat ≤ 0x10FFFF := by
  rcases c.valid with h | ⟨-, h⟩
  · exact Nat.le_of_lt (Nat.lt_trans h (by decide))
  · exact Nat.le_of_lt_succ h

theorem continues_ofNat (m : Nat) : Continues (UInt8.ofNat (m % 64 + 128)) := by
  rw [Continues, UInt8.toNat_ofNat']
  omega

theorem extend_ofNat (n m : Nat) : extend n (UInt8.ofNat (m % 64 + 128)) = n * 64 + m % 64 := by
  rw [extend, UInt8.toNat_ofNat']
  omega

theorem pattern_utf8EncodeChar (c : Char) : Pattern (String.utf8EncodeChar c) := by
  rw [String.utf8EncodeChar, ← Char.toNat]
  split_ifs with hone htwo hthree
  · apply Pattern.one
    rw [UInt8.toNat_ofNat']
    omega
  · refine .two ?_ (continues_ofNat _)
    rw [UInt8.toNat_ofNat']
    omega
  · refine .three ?_ (continues_ofNat _) (continues_ofNat _)
    rw [UInt8.toNat_ofNat']
    omega
  · refine .four ?_ (continues_ofNat _) (continues_ofNat _) (continues_ofNat _)
    rw [UInt8.toNat_ofNat']
    omega

@[simp] theorem number_utf8EncodeChar (c : Char) : number (String.utf8EncodeChar c) = c.toNat := by
  have hc := toNat_le c
  rw [String.utf8EncodeChar, ← Char.toNat]
  split_ifs with hone htwo hthree
  · rw [number, UInt8.toNat_ofNat']
    omega
  · rw [number, extend_ofNat, UInt8.toNat_ofNat']
    omega
  · rw [number, extend_ofNat, extend_ofNat, UInt8.toNat_ofNat']
    omega
  · rw [number, extend_ofNat, extend_ofNat, extend_ofNat, UInt8.toNat_ofNat']
    omega

theorem length_utf8EncodeChar_le (h : Pattern bytes) (hn : number bytes = c.toNat) :
    (String.utf8EncodeChar c).length ≤ bytes.length := by
  have hlength : (String.utf8EncodeChar c).length =
      if c.toNat ≤ 0x7F then 1 else if c.toNat ≤ 0x7FF then 2 else if c.toNat ≤ 0xFFFF then 3 else 4 :=
    String.length_utf8EncodeChar c
  rw [hlength, ← hn]
  cases h with
  | one ha =>
      rw [number, if_pos (Nat.le_of_lt_succ ha)]
      exact Nat.le_refl 1
  | @two a b ha hb =>
      have hsmall : number [a, b] < 32 * 64 := extend_lt (Nat.mod_lt _ (by decide)) b
      split_ifs <;> simp only [List.length_cons, List.length_nil] <;> omega
  | @three a b c ha hb hc =>
      have hsmall : number [a, b, c] < 16 * 64 * 64 := extend_lt (extend_lt (Nat.mod_lt _ (by decide)) b) c
      split_ifs <;> simp only [List.length_cons, List.length_nil] <;> omega
  | four ha hb hc hd => split_ifs <;> simp only [List.length_cons, List.length_nil] <;> omega

theorem character_utf8EncodeChar (c : Char) : Character (String.utf8EncodeChar c) where
  pattern := pattern_utf8EncodeChar c
  notOverlong other ho hn := length_utf8EncodeChar_le ho (hn.trans (number_utf8EncodeChar c))
  notSurrogate := by
    rw [number_utf8EncodeChar]
    rcases c.valid with h | ⟨h, -⟩
    · exact .inl h
    · exact .inr h
  inRange := by
    rw [number_utf8EncodeChar]
    exact toNat_le c

theorem Character.exists_char (h : Character bytes) : ∃ c, bytes = String.utf8EncodeChar c := by
  have hvalid : (number bytes).isValidChar := by
    rcases h.notSurrogate with hlow | hhigh
    · exact .inl hlow
    · exact .inr ⟨hhigh, Nat.lt_succ_of_le h.inRange⟩
  have hn : number (String.utf8EncodeChar (Char.ofNatAux _ hvalid)) = number bytes := number_utf8EncodeChar _
  have hle := h.notOverlong _ (pattern_utf8EncodeChar _) hn
  have hge := length_utf8EncodeChar_le h.pattern (hn.symm.trans (number_utf8EncodeChar _))
  exact ⟨_, h.pattern.eq_of_number (pattern_utf8EncodeChar _) hn.symm (Nat.le_antisymm hle hge)⟩

theorem wellFormed_iff : WellFormed bytes ↔ ∃ t : Text, bytes = t.encode := by
  constructor
  · intro h
    induction h with
    | nil => exact ⟨[], rfl⟩
    | append h hrest ih =>
        obtain ⟨c, rfl⟩ := h.exists_char
        obtain ⟨t, rfl⟩ := ih
        exact ⟨c :: t, rfl⟩
  · rintro ⟨t, rfl⟩
    induction t with
    | nil => exact .nil
    | cons c t ih => exact .append (character_utf8EncodeChar c) ih

end Bytes

namespace Text

variable {t : Text} {bytes : Bytes}

@[simp] theorem decode?_encode (t : Text) : decode? (encode t) = some t := by
  have h : (encode t).toByteArray.utf8Decode? = some t.toArray := List.utf8Decode?_utf8Encode
  rw [decode?, h, Option.map_some, List.toList_toArray]

theorem decode?_eq_some_iff : decode? bytes = some t ↔ bytes = encode t := by
  constructor
  · intro h
    obtain ⟨array, harray, rfl⟩ := Option.map_eq_some_iff.mp h
    have hsome : bytes.toByteArray.utf8Decode?.isSome := by rw [harray, Option.isSome_some]
    have hget : bytes.toByteArray.utf8Decode?.get hsome = array := Option.get_of_eq_some hsome harray
    have hbytes := ByteArray.utf8Encode_get_utf8Decode? (h := hsome)
    rw [hget] at hbytes
    exact (List.toByteArray_inj.mp hbytes).symm
  · rintro rfl
    exact decode?_encode t

end Text

end Plotter
