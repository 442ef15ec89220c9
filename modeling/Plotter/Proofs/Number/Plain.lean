import Plotter.Proofs.Number.Printing

namespace Plotter

namespace Text

def Digits (t : Text) : Prop := t ≠ [] ∧ ∀ c ∈ t, c.isDigit

inductive Unsigned : Text → Prop
  | whole {t : Text} (h : Digits t) : Unsigned t
  | fraction {whole places : Text} (hw : Digits whole) (hp : Digits places) : Unsigned (whole ++ '.' :: places)

inductive Plain : Text → Prop
  | unsigned {t : Text} (h : Unsigned t) : Plain t
  | negative {t : Text} (h : Unsigned t) : Plain ('-' :: t)

theorem digits_ofNat (n : Nat) : Digits (ofNat n) := ⟨Nat.toDigits_ne_nil, isDigit_ofNat n⟩

end Text

open Text (Digits Unsigned Plain)

theorem Decimal.unsigned_text (d : Decimal) : Unsigned d.text := by
  obtain ⟨n, zeros | k⟩ := d
  · have hne : text ⟨n, .ofNat zeros⟩ ≠ [] := List.append_ne_nil_of_left_ne_nil (Text.digits_ofNat n).1 _
    exact .whole ⟨hne, isDigit_text_ofNat n zeros⟩
  · have hlt : n % 10 ^ (k + 1) < 10 ^ (k + 1) := Nat.mod_lt _ (Nat.pow_pos (by decide))
    have hne : padded (k + 1) (n % 10 ^ (k + 1)) ≠ [] := by
      rw [← List.length_pos_iff, length_padded hlt (Nat.succ_pos k)]
      exact Nat.succ_pos k
    rw [text_negSucc]
    exact .fraction (Text.digits_ofNat _) ⟨hne, isDigit_padded _ _⟩

namespace Number

variable {n : Number}

theorem plain_of_isFinite (h : n.isFinite) : Plain n.text := by
  cases n with
  | finite negative m =>
      cases negative with
      | false => exact .unsigned (Decimal.unsigned_text _)
      | true => exact .negative (Decimal.unsigned_text _)
  | infinite | nan => cases h

theorem unsigned_of_pos (hf : n.isFinite) (hn : n.isNegative = false) (hz : n.isZero = false) : Unsigned n.text := by
  cases n with
  | finite negative m =>
      have hsign : negative = false := by simpa [isNegative, show m ≠ .zero by simpa [isZero] using hz] using hn
      rw [hsign]
      exact Decimal.unsigned_text _
  | infinite | nan => cases hf

end Number

end Plotter
