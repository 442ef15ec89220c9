import Plotter.Proofs.Number.Notation
import Plotter.Proofs.Number.Shortest
import Plotter.Proofs.Text.Letters

namespace Plotter

namespace Decimal

section

variable {t whole fraction : Text}

theorem span_digits {rest : Text} (h : ∀ c ∈ t, c.isDigit) (hr : ∀ c ∈ rest.head?, c.isDigit = false) :
    (t ++ rest).span Char.isDigit = (t, rest) := by
  rw [List.span_eq_takeWhile_dropWhile, List.takeWhile_append_of_pos h, List.dropWhile_append_of_pos h]
  cases rest with
  | nil => simp
  | cons c rest => simp [hr c rfl]

theorem span_all_digits (h : ∀ c ∈ t, c.isDigit) : t.span Char.isDigit = (t, []) := by
  have hspan : (t ++ []).span Char.isDigit = (t, []) := span_digits h (by simp)
  rwa [List.append_nil] at hspan

theorem read?_digits (ht : t ≠ []) (h : ∀ c ∈ t, c.isDigit) : read? t = some ⟨Nat.ofDigitChars 10 t 0, 0⟩ := by
  simp only [read?, span_all_digits h, takeFraction, readExponent?]
  simp [ht]

theorem read?_point (hw : ∀ c ∈ whole, c.isDigit) (hf : ∀ c ∈ fraction, c.isDigit) (hne : fraction ≠ []) :
    read? (whole ++ '.' :: fraction) = some ⟨Nat.ofDigitChars 10 (whole ++ fraction) 0, -fraction.length⟩ := by
  have hwhole : (whole ++ '.' :: fraction).span Char.isDigit = (whole, '.' :: fraction) :=
    span_digits hw (by rintro c ⟨⟩; rfl)
  simp only [read?, hwhole, takeFraction, span_all_digits hf, readExponent?]
  simp [hne]

end

/-- A number below a power of ten with zeros before it, so that it has as many digits as the power. -/
def padded (places n : Nat) : Text := List.replicate (places - (Text.ofNat n).length) '0' ++ Text.ofNat n

theorem isDigit_padded (places n : Nat) : ∀ c ∈ padded places n, c.isDigit := by
  intro c hc
  rcases List.mem_append.mp hc with hc | hc
  · rw [List.eq_of_mem_replicate hc]
    rfl
  · exact Text.isDigit_ofNat n c hc

theorem length_padded {places n : Nat} (h : n < 10 ^ places) (hp : 0 < places) : (padded places n).length = places := by
  have hlen : (Text.ofNat n).length ≤ places := (Nat.length_toDigits_le_iff (by decide) hp).mpr h
  rw [padded, List.length_append, List.length_replicate]
  omega

@[simp] theorem ofDigitChars_padded (places n : Nat) : Nat.ofDigitChars 10 (padded places n) 0 = n := by
  rw [padded, Nat.ofDigitChars_append, Nat.ofDigitChars_replicate_zero, Nat.mul_zero]
  exact Nat.ofDigitChars_ten_toDigits

theorem text_negSucc (n k : Nat) :
    text ⟨n, .negSucc k⟩ = Text.ofNat (n / 10 ^ (k + 1)) ++ '.' :: padded (k + 1) (n % 10 ^ (k + 1)) := by
  simp [text, padded]

theorem isDigit_text_ofNat (n zeros : Nat) : ∀ c ∈ text ⟨n, .ofNat zeros⟩, c.isDigit := by
  intro c hc
  rcases List.mem_append.mp hc with hc | hc
  · exact Text.isDigit_ofNat n c hc
  · rw [List.eq_of_mem_replicate hc]
    rfl

theorem read?_text_ofNat (n zeros : Nat) : read? (text ⟨n, .ofNat zeros⟩) = some ⟨n * 10 ^ zeros, 0⟩ := by
  have hne : text ⟨n, .ofNat zeros⟩ ≠ [] := by simp [text, Text.ofNat, Nat.toDigits_ne_nil]
  rw [read?_digits hne (isDigit_text_ofNat n zeros)]
  simp only [text, Text.ofNat, Nat.ofDigitChars_append, Nat.ofDigitChars_ten_toDigits,
    Nat.ofDigitChars_replicate_zero, Nat.mul_comm]

theorem read?_text_negSucc (n k : Nat) : read? (text ⟨n, .negSucc k⟩) = some ⟨n, .negSucc k⟩ := by
  have hmod : n % 10 ^ (k + 1) < 10 ^ (k + 1) := Nat.mod_lt _ (Nat.pow_pos (by decide))
  have hlen : (padded (k + 1) (n % 10 ^ (k + 1))).length = k + 1 := length_padded hmod (Nat.succ_pos k)
  have hne : padded (k + 1) (n % 10 ^ (k + 1)) ≠ [] := by
    rw [← List.length_pos_iff, hlen]
    exact Nat.succ_pos k
  have hdigits : Nat.ofDigitChars 10 (Text.ofNat (n / 10 ^ (k + 1)) ++ padded (k + 1) (n % 10 ^ (k + 1))) 0 = n := by
    rw [Nat.ofDigitChars_append, Nat.ofDigitChars_eq_ofDigitChars_zero, ofDigitChars_padded, hlen, Text.ofNat,
      Nat.ofDigitChars_ten_toDigits, Nat.div_add_mod]
  rw [text_negSucc, read?_point (Text.isDigit_ofNat _) (isDigit_padded _ _) hne, hdigits, hlen]
  rfl

theorem exists_read?_text (d : Decimal) : ∃ e, read? d.text = some e ∧ e.nearest? = d.nearest? := by
  obtain ⟨n, zeros | k⟩ := d
  · exact ⟨_, read?_text_ofNat n zeros, by rw [nearest?_shift, Int.zero_add]; rfl⟩
  · exact ⟨_, read?_text_negSucc n k, rfl⟩

theorem isDigit_or_point_of_mem_text (d : Decimal) : ∀ c ∈ d.text, c.isDigit ∨ c = '.' := by
  obtain ⟨n, zeros | k⟩ := d
  · exact fun c hc => .inl (isDigit_text_ofNat n zeros c hc)
  · rw [text_negSucc]
    intro c hc
    rcases List.mem_append.mp hc with hc | hc
    · exact .inl (Text.isDigit_ofNat _ c hc)
    · rcases List.mem_cons.mp hc with rfl | hc
      · exact .inr rfl
      · exact .inl (isDigit_padded _ _ c hc)

theorem exists_text_eq_cons (d : Decimal) : ∃ c rest, d.text = c :: rest ∧ c.isDigit := by
  have hhead (n : Nat) (rest : Text) : ∃ c more, Text.ofNat n ++ rest = c :: more ∧ c.isDigit := by
    obtain ⟨c, more, hc⟩ := List.exists_cons_of_ne_nil (Nat.toDigits_ne_nil (n := n) (b := 10))
    refine ⟨c, more ++ rest, by rw [Text.ofNat, hc, List.cons_append], ?_⟩
    exact Text.isDigit_ofNat n c (by rw [Text.ofNat, hc]; exact List.mem_cons_self)
  obtain ⟨n, zeros | k⟩ := d
  · exact hhead n _
  · rw [text_negSucc]
    exact hhead _ _

end Decimal

namespace Number

variable {c : Char} {rest : Text}

theorem ofWord?_cons (h : c.isAlpha = false) (negative : Bool) : ofWord? negative (c :: rest) = none := by
  have hword {d : Char} {word : Text} (hd : d.isAlpha = true) : ¬ Text.SameWord (d :: word) (c :: rest) := by
    intro hw
    have hdc : d.toLower = c.toLower := (List.cons.inj hw).1
    rw [(Text.toLower_eq_iff h).mpr rfl, Text.toLower_eq_iff h] at hdc
    rw [hdc, h] at hd
    cases hd
  have hnan : ¬ Text.SameWord "nan".toList (c :: rest) := hword rfl
  have hinf : ¬ Text.SameWord "inf".toList (c :: rest) := hword rfl
  have hinfinity : ¬ Text.SameWord "infinity".toList (c :: rest) := hword rfl
  simp only [ofWord?, hnan, hinf, hinfinity, or_self, if_false]

theorem takeSign_sign (h : c.isDigit) (negative : Bool) :
    takeSign (sign negative ++ c :: rest) = (negative, c :: rest) := by
  cases negative with
  | true => rfl
  | false =>
      have hm : c ≠ '-' := by
        rintro rfl
        cases h
      have hp : c ≠ '+' := by
        rintro rfl
        cases h
      simp [sign, takeSign, hm, hp]

@[simp] theorem read?_text (n : Number) : read? n.text = some n := by
  cases n with
  | finite negative m =>
      obtain ⟨c, rest, ht, hc⟩ := (Decimal.shortest m).exists_text_eq_cons
      obtain ⟨e, he, hn⟩ := (Decimal.shortest m).exists_read?_text
      rw [text, ht, read?, takeSign_sign hc]
      rw [ht] at he
      simp [ofWord?_cons (Text.isAlpha_of_isDigit hc), ofDigits?, he, hn, ofMagnitude]
  | infinite negative => cases negative <;> rfl
  | nan => rfl

theorem text_injective : Function.Injective text :=
  fun m n h => Option.some_inj.mp (by rw [← read?_text m, h, read?_text])

theorem plain_text {n : Number} (h : n.isFinite) : ∀ c ∈ n.text, c.isDigit ∨ c = '.' ∨ c = '-' := by
  cases n with
  | finite negative m =>
      intro c hc
      rcases List.mem_append.mp hc with hc | hc
      · cases negative with
        | true => exact .inr (.inr (List.mem_singleton.mp hc))
        | false => cases hc
      · exact ((Decimal.shortest m).isDigit_or_point_of_mem_text c hc).imp_right .inl
  | infinite negative => cases h
  | nan => cases h

theorem characters_text (n : Number) : ∀ c ∈ n.text, c.isDigit ∨ c ∈ ".-infNa".toList := by
  cases n with
  | finite negative m =>
      intro c hc
      obtain h | rfl | rfl := plain_text (n := finite negative m) rfl c hc
      · exact .inl h
      · exact .inr (by decide)
      · exact .inr (by decide)
  | infinite negative =>
      have hword : (infinite negative).text ⊆ ".-infNa".toList := by cases negative <;> decide
      exact fun c hc => .inr (hword hc)
  | nan =>
      have hword : nan.text ⊆ ".-infNa".toList := by decide
      exact fun c hc => .inr (hword hc)

theorem not_mem_text (hd : c.isDigit = false) (hc : c ∉ ".-infNa".toList) (n : Number) : c ∉ n.text := by
  intro h
  obtain h | h := n.characters_text c h
  · rw [hd] at h
    cases h
  · exact hc h

end Number

end Plotter
