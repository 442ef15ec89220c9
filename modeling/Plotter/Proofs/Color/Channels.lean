import Plotter.Color
import Plotter.Proofs.Number.Printing

namespace Plotter

namespace Channel

variable {a b : UInt8}

theorem digitChar_inj {m n : Nat} (hm : m < 16) (hn : n < 16) (h : m.digitChar = n.digitChar) : m = n := by
  have hall : ∀ m < 16, ∀ n < 16, Nat.digitChar m = Nat.digitChar n → m = n := by decide
  exact hall m hm n hn h

theorem digitChar_mem {n : Nat} (h : n < 16) : n.digitChar ∈ "0123456789abcdef".toList := by
  have hall : ∀ n < 16, Nat.digitChar n ∈ "0123456789abcdef".toList := by decide
  exact hall n h

theorem hex_injective : Function.Injective hex := by
  intro a b h
  have ha := a.toNat_lt
  have hb := b.toNat_lt
  obtain ⟨hhigh, hlow⟩ : (a.toNat / 16).digitChar = (b.toNat / 16).digitChar ∧
      (a.toNat % 16).digitChar = (b.toNat % 16).digitChar := by simpa [hex] using h
  have hdiv : a.toNat / 16 = b.toNat / 16 := digitChar_inj (by omega) (by omega) hhigh
  have hmod : a.toNat % 16 = b.toNat % 16 := digitChar_inj (by omega) (by omega) hlow
  apply UInt8.toNat_inj.mp
  omega

theorem digit_of_mem_hex (channel : UInt8) : ∀ c ∈ hex channel, c ∈ "0123456789abcdef".toList := by
  have hlt := channel.toNat_lt
  intro c hc
  rcases List.mem_cons.mp hc with rfl | hc
  · exact digitChar_mem (by omega)
  · rw [List.mem_singleton.mp hc]
    exact digitChar_mem (by omega)

end Channel

namespace Color

variable {c d : Color}

theorem hex_inj (h : c.hex = d.hex) : c.red = d.red ∧ c.green = d.green ∧ c.blue = d.blue := by
  have hlength : ∀ channel, (Channel.hex channel).length = 2 := fun _ => rfl
  obtain ⟨hrest, hblue⟩ := List.append_inj (List.cons.inj h).2 (by simp [hlength])
  obtain ⟨hred, hgreen⟩ := List.append_inj hrest (by simp [hlength])
  exact ⟨Channel.hex_injective hred, Channel.hex_injective hgreen, Channel.hex_injective hblue⟩

theorem eq_of_hex (h : c.hex = d.hex) (ha : c.alpha = d.alpha) : c = d := by
  obtain ⟨hred, hgreen, hblue⟩ := hex_inj h
  cases c
  cases d
  rw [Color.mk.injEq]
  exact ⟨hred, hgreen, hblue, ha⟩

theorem not_mem_hex {x : Char} (h : x ∉ "#0123456789abcdef".toList) (c : Color) : x ∉ c.hex := by
  obtain ⟨hsharp, hdigit⟩ : x ≠ '#' ∧ x ∉ "0123456789abcdef".toList := not_or.mp (List.mem_cons.not.mp h)
  have hchannel (channel : UInt8) : x ∉ Channel.hex channel :=
    fun hx => hdigit (Channel.digit_of_mem_hex channel x hx)
  simp [hex, hsharp, hchannel]

def thousandths (alpha : UInt8) : Nat := roundHalfEven (1000 * alpha.toNat) 255

theorem thousandths_near (alpha : UInt8) :
    2000 * alpha.toNat ≤ 510 * thousandths alpha + 255 ∧ 510 * thousandths alpha ≤ 2000 * alpha.toNat + 255 := by
  rw [thousandths, roundHalfEven]
  split
  · omega
  · split <;> omega

theorem thousandths_injective : Function.Injective thousandths := by
  -- From one step of the opacity to the next there are nearly four thousandths.
  intro a b h
  have ha := thousandths_near a
  have hb := thousandths_near b
  rw [h] at ha
  apply UInt8.toNat_inj.mp
  omega

theorem opacityText_eq (c : Color) : c.opacityText = Decimal.text ⟨thousandths c.alpha, .negSucc 2⟩ := rfl

theorem opacityText_inj (h : c.opacityText = d.opacityText) : c.alpha = d.alpha := by
  have hread := congrArg Decimal.read? h
  rw [opacityText_eq, opacityText_eq, Decimal.read?_text_negSucc, Decimal.read?_text_negSucc, Option.some_inj,
    Decimal.mk.injEq] at hread
  exact thousandths_injective hread.1

theorem not_mem_opacityText {x : Char} (hd : x.isDigit = false) (hp : x ≠ '.') (c : Color) : x ∉ c.opacityText := by
  intro hx
  rw [opacityText_eq] at hx
  obtain h | h := Decimal.isDigit_or_point_of_mem_text _ x hx
  · rw [hd] at h
    cases h
  · exact hp h

end Color

end Plotter
