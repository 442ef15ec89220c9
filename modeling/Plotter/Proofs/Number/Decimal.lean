import Mathlib.Tactic.Ring
import Plotter.Number.Decimal
import Plotter.Proofs.Number.Rounding

namespace Plotter

namespace Magnitude

variable {n d : Nat}

/-- A power of two whose exponent is out of sight, lest it be raised. -/
theorem exists_one_eq : ∃ k, k = 1074 ∧ one = 2 ^ k := ⟨1074, rfl, by decide +kernel⟩

theorem one_pos : 0 < one := by
  obtain ⟨k, -, hone⟩ := exists_one_eq
  rw [hone]
  exact Nat.two_pow_pos k

theorem unitsOfRank_count : unitsOfRank count = 2 ^ 1024 * one := by decide +kernel

theorem nearest?_overflow (hd : 0 < d) (h : 2 ^ 1024 * one * d ≤ n) : nearest? n d = none := by
  have hr : count ≤ nearestRank n d := le_nearestRank hd (by rwa [unitsOfRank_count])
  rw [nearest?, dif_neg (Nat.not_lt.mpr hr)]

theorem nearest?_underflow (hd : 0 < d) (h : 2 * n < d) : nearest? n d = some .zero := by
  have hr : nearestRank n d = 0 := by
    rw [← Nat.le_zero, nearestRank_le_iff hd]
    left
    show 2 * n < (0 + 1) * d
    omega
  simp only [nearest?, hr]
  rfl

end Magnitude

namespace Decimal

theorem powerOfTen_pos (g : Int) : 0 < powerOfTen g := Nat.pow_pos (by decide)

theorem powerOfTen_of_nonpos {g : Int} (h : g ≤ 0) : powerOfTen g = 1 := by rw [powerOfTen, Int.toNat_of_nonpos h]

theorem two_pow_le_powerOfTen {g : Int} {k : Nat} (h : (k : Int) ≤ 3 * g) : 2 ^ k ≤ powerOfTen g := by
  calc 2 ^ k ≤ 2 ^ (3 * g.toNat) := Nat.pow_le_pow_right (by decide) (by omega)
    _ = 8 ^ g.toNat := by rw [Nat.pow_mul]
    _ ≤ 10 ^ g.toNat := Nat.pow_le_pow_left (by decide) _

theorem denominator_pos (d : Decimal) : 0 < d.denominator := powerOfTen_pos _

/-- The tests that settle an extreme exponent foretell the rounding. -/
theorem nearest?_eq (d : Decimal) : d.nearest? = Magnitude.nearest? d.numerator d.denominator := by
  have hd := d.denominator_pos
  rw [nearest?]
  split
  next hz =>
    have hn : d.numerator = 0 := by rw [numerator, hz, Nat.zero_mul, Nat.zero_mul]
    rw [hn, Magnitude.nearest?_underflow hd hd]
  next hz =>
    split
    next hlarge =>
      have hden : d.denominator = 1 := powerOfTen_of_nonpos (by omega)
      have hpow : 2 ^ 1024 ≤ powerOfTen d.exponent := two_pow_le_powerOfTen (by omega)
      have hn : 2 ^ 1024 * Magnitude.one ≤ d.numerator := by
        apply Nat.mul_le_mul_right
        exact hpow.trans (Nat.le_mul_of_pos_left _ (Nat.pos_of_ne_zero hz))
      rw [Magnitude.nearest?_overflow hd (by rwa [hden, Nat.mul_one])]
    next =>
      split
      next hsmall =>
        obtain ⟨k, hk, hone⟩ := Magnitude.exists_one_eq
        have hpow : 2 ^ (d.digits.log2 + 1 + (k + 1)) ≤ d.denominator := two_pow_le_powerOfTen (by omega)
        have hn : d.numerator = d.digits * Magnitude.one := by
          rw [numerator, powerOfTen_of_nonpos (by omega), Nat.mul_one]
        rw [Magnitude.nearest?_underflow hd]
        calc 2 * d.numerator = d.digits * 2 ^ (k + 1) := by rw [hn, hone, Nat.pow_succ']; ring
          _ < 2 ^ (d.digits.log2 + 1) * 2 ^ (k + 1) :=
            Nat.mul_lt_mul_of_pos_right Nat.lt_log2_self (Nat.two_pow_pos _)
          _ = 2 ^ (d.digits.log2 + 1 + (k + 1)) := (Nat.pow_add ..).symm
          _ ≤ d.denominator := hpow
      next => rfl

theorem nearest?_congr {d e : Decimal} (h : d.numerator * e.denominator = e.numerator * d.denominator) :
    d.nearest? = e.nearest? := by
  have hr : Magnitude.nearestRank d.numerator d.denominator = Magnitude.nearestRank e.numerator e.denominator :=
    Nat.le_antisymm (Magnitude.nearestRank_mono d.denominator_pos e.denominator_pos h.le)
      (Magnitude.nearestRank_mono e.denominator_pos d.denominator_pos h.ge)
  simp only [nearest?_eq, Magnitude.nearest?, hr]

theorem powerOfTen_shift (g : Int) (k : Nat) :
    10 ^ k * powerOfTen g * powerOfTen (-(g + k)) = powerOfTen (g + k) * powerOfTen (-g) := by
  show 10 ^ k * 10 ^ g.toNat * 10 ^ (-(g + k)).toNat = 10 ^ (g + k).toNat * 10 ^ (-g).toNat
  rw [← Nat.pow_add, ← Nat.pow_add, ← Nat.pow_add]
  congr 1
  omega

theorem nearest?_shift (n k : Nat) (g : Int) : nearest? ⟨n * 10 ^ k, g⟩ = nearest? ⟨n, g + k⟩ := by
  apply nearest?_congr
  calc n * 10 ^ k * powerOfTen g * Magnitude.one * powerOfTen (-(g + k))
      = n * Magnitude.one * (10 ^ k * powerOfTen g * powerOfTen (-(g + k))) := by ring
    _ = n * powerOfTen (g + k) * Magnitude.one * powerOfTen (-g) := by rw [powerOfTen_shift]; ring

end Decimal

end Plotter
