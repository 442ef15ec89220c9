import Mathlib.Algebra.Order.Field.Power
import Mathlib.Algebra.Order.Ring.Rat
import Plotter.Proofs.Number.Decimal

namespace Plotter

namespace Magnitude

def rankValue (rank : Nat) : ℚ := unitsOfRank rank / one

def value (m : Magnitude) : ℚ := rankValue m.rank

/-- No magnitude is nearer to `x`, and if another one is as near, then this one is even. -/
structure Nearest (x : ℚ) (m : Magnitude) : Prop where
  near : ∀ k : Magnitude, |m.value - x| ≤ |k.value - x|
  even : ∀ k : Magnitude, k ≠ m → |m.value - x| = |k.value - x| → m.rank % 2 = 0

/-- Half a step past the last magnitude. -/
def limit : ℚ := 2 ^ 1024 - 2 ^ 970

section

variable {a b x : ℚ}

theorem abs_sub_le_iff_of_lt (h : a < b) : |a - x| ≤ |b - x| ↔ 2 * x ≤ a + b := by
  rcases abs_cases (a - x) with ⟨ha, _⟩ | ⟨ha, _⟩ <;> rcases abs_cases (b - x) with ⟨hb, _⟩ | ⟨hb, _⟩ <;>
    rw [ha, hb] <;> constructor <;> intro <;> linarith

theorem abs_sub_ge_iff_of_lt (h : a < b) : |b - x| ≤ |a - x| ↔ a + b ≤ 2 * x := by
  rcases abs_cases (a - x) with ⟨ha, _⟩ | ⟨ha, _⟩ <;> rcases abs_cases (b - x) with ⟨hb, _⟩ | ⟨hb, _⟩ <;>
    rw [ha, hb] <;> constructor <;> intro <;> linarith

theorem two_mul_eq_of_abs_sub (hne : a ≠ b) (h : |a - x| = |b - x|) : 2 * x = a + b := by
  obtain hlt | hlt := lt_or_gt_of_ne hne
  · exact le_antisymm ((abs_sub_le_iff_of_lt hlt).mp h.le) ((abs_sub_ge_iff_of_lt hlt).mp h.ge)
  · rw [add_comm]
    exact le_antisymm ((abs_sub_le_iff_of_lt hlt).mp h.ge) ((abs_sub_ge_iff_of_lt hlt).mp h.le)

end

variable {n d r : Nat} {x : ℚ} {m k : Magnitude}

theorem cast_one_pos : (0 : ℚ) < one := by exact_mod_cast one_pos

theorem rankValue_strictMono : StrictMono rankValue := by
  intro r s h
  have hunits : unitsOfRank r < unitsOfRank s := unitsOfRank_strictMono h
  exact div_lt_div_of_pos_right (by exact_mod_cast hunits) cast_one_pos

theorem value_lt_iff : m.value < k.value ↔ m.rank < k.rank := rankValue_strictMono.lt_iff_lt

theorem value_ne (h : k ≠ m) : k.value ≠ m.value := by
  intro he
  apply h
  obtain ⟨rank, hk⟩ := k
  obtain ⟨rank', hm⟩ := m
  obtain rfl : rank = rank' := rankValue_strictMono.injective he
  rfl

theorem below_iff (hd : 0 < d) (hx : x * one * d = n) :
    Below n d r ↔ 2 * x < rankValue r + rankValue (r + 1) ∨
      2 * x = rankValue r + rankValue (r + 1) ∧ r % 2 = 0 := by
  have hd' : (0 : ℚ) < d := by exact_mod_cast hd
  have hone := cast_one_pos
  have hsum : ((unitsOfRank r + unitsOfRank (r + 1) : Nat) : ℚ) * d =
      (rankValue r + rankValue (r + 1)) * (one * d) := by
    rw [rankValue, rankValue, ← add_div, ← mul_assoc, div_mul_cancel₀ _ hone.ne']
    push_cast
    rfl
  have htwice : ((2 * n : Nat) : ℚ) = 2 * x * (one * d) := by
    push_cast
    rw [← hx]
    ring
  have hscale : (0 : ℚ) < one * d := mul_pos hone hd'
  have hlt : 2 * n < (unitsOfRank r + unitsOfRank (r + 1)) * d ↔ 2 * x < rankValue r + rankValue (r + 1) := by
    rw [← Nat.cast_lt (α := ℚ), Nat.cast_mul (_ + _), hsum, htwice, mul_lt_mul_iff_left₀ hscale]
  have heq : 2 * n = (unitsOfRank r + unitsOfRank (r + 1)) * d ↔ 2 * x = rankValue r + rankValue (r + 1) := by
    rw [← Nat.cast_inj (R := ℚ), Nat.cast_mul (_ + _), hsum, htwice, mul_left_inj' hscale.ne']
  rw [Below, hlt, heq]

theorem nearest_of_nearestRank (hd : 0 < d) (hx : x * one * d = n) (h : nearestRank n d = m.rank) : Nearest x m := by
  -- A rank before or after another one is not nearer, since no middle is between `x` and that one.
  have hbelow {r : Nat} : m.rank ≤ r ↔ 2 * x < rankValue r + rankValue (r + 1) ∨
      2 * x = rankValue r + rankValue (r + 1) ∧ r % 2 = 0 := by
    rw [← h, nearestRank_le_iff hd, below_iff hd hx]
  have hlower {r : Nat} (hr : r < m.rank) :
      rankValue r + m.value ≤ 2 * x ∧ (2 * x = rankValue r + m.value → m.rank % 2 = 0) := by
    obtain ⟨s, hs⟩ := Nat.exists_eq_succ_of_ne_zero (Nat.ne_zero_of_lt hr)
    have hmono : rankValue r ≤ rankValue s := rankValue_strictMono.monotone (by omega)
    obtain ⟨hmiddle, hodd⟩ := not_or.mp (hbelow.not.mp (show ¬ m.rank ≤ s by omega))
    rw [value, hs]
    refine ⟨by linarith, fun he => ?_⟩
    have hs2 : s % 2 ≠ 0 := fun hs2 => hodd ⟨by linarith, hs2⟩
    omega
  have hupper {r : Nat} (hr : m.rank < r) :
      2 * x ≤ m.value + rankValue r ∧ (2 * x = m.value + rankValue r → m.rank % 2 = 0) := by
    have hmono : rankValue (m.rank + 1) ≤ rankValue r := rankValue_strictMono.monotone hr
    rw [value]
    obtain hmiddle | ⟨hmiddle, heven⟩ := hbelow.mp le_rfl
    · exact ⟨by linarith, fun he => by linarith⟩
    · exact ⟨by linarith, fun _ => heven⟩
  constructor
  · intro k
    obtain hk | hk | hk := lt_trichotomy k.rank m.rank
    · exact (abs_sub_ge_iff_of_lt (value_lt_iff.mpr hk)).mpr (hlower hk).1
    · rw [value, value, hk]
    · exact (abs_sub_le_iff_of_lt (value_lt_iff.mpr hk)).mpr (hupper hk).1
  · intro k hne hdist
    have hmiddle : 2 * x = m.value + k.value := two_mul_eq_of_abs_sub (value_ne hne).symm hdist
    obtain hk | hk | hk := lt_trichotomy k.rank m.rank
    · exact (hlower hk).2 (by rw [hmiddle, add_comm, ← value])
    · exact absurd (congrArg rankValue hk) (value_ne hne)
    · exact (hupper hk).2 hmiddle

theorem Nearest.unique (hm : Nearest x m) (hk : Nearest x k) : k = m := by
  -- Two even ranks have another one between them, and its value is nearer to the middle.
  by_contra hne
  wlog hlt : m.rank < k.rank generalizing m k
  · refine this hk hm (Ne.symm hne) (lt_of_le_of_ne (not_lt.mp hlt) fun hr => ?_)
    exact value_ne hne (congrArg rankValue hr)
  have hdist : |m.value - x| = |k.value - x| := le_antisymm (hm.near k) (hk.near m)
  have hmiddle : 2 * x = m.value + k.value := two_mul_eq_of_abs_sub (value_ne hne).symm hdist
  have hm2 : m.rank % 2 = 0 := hm.even k hne hdist
  have hk2 : k.rank % 2 = 0 := hk.even m (Ne.symm hne) hdist.symm
  let j : Magnitude := ⟨m.rank + 1, by have := k.rank_lt; omega⟩
  have hmj : m.value < j.value := value_lt_iff.mpr (Nat.lt_succ_self _)
  have hjk : j.value < k.value := value_lt_iff.mpr (show m.rank + 1 < k.rank by omega)
  have hj : 2 * x ≤ m.value + j.value := (abs_sub_le_iff_of_lt hmj).mp (hm.near j)
  linarith

theorem rankValue_eq_sub {a b : Nat} (h : unitsOfRank r + a * one = b * one) : rankValue r = b - a := by
  have hsum : (unitsOfRank r : ℚ) + a * one = b * one := by exact_mod_cast h
  rw [rankValue, div_eq_iff cast_one_pos.ne', eq_sub_of_add_eq hsum, sub_mul]

theorem rankValue_around_limit : rankValue (count - 1) + rankValue count = 2 * limit := by
  have hlast : rankValue (count - 1) = (2 ^ 1024 : Nat) - (2 * 2 ^ 970 : Nat) := rankValue_eq_sub (by decide +kernel)
  have hcount : rankValue count = (2 ^ 1024 : Nat) - (0 : Nat) :=
    rankValue_eq_sub (by rw [unitsOfRank_count, Nat.zero_mul, Nat.add_zero])
  rw [hlast, hcount, limit, Nat.cast_mul, Nat.cast_pow, Nat.cast_pow, Nat.cast_ofNat, Nat.cast_zero]
  generalize (2 : ℚ) ^ 1024 = a, (2 : ℚ) ^ 970 = b
  ring

theorem limit_le_iff (hd : 0 < d) (hx : x * one * d = n) : limit ≤ x ↔ count ≤ nearestRank n d := by
  -- The last rank is odd, so that what is in the middle after it is rounded up.
  have hcount : count - 1 + 1 = count := by decide
  have hodd : (count - 1) % 2 ≠ 0 := by decide
  have hbelow := below_iff (r := count - 1) hd hx
  rw [← nearestRank_le_iff hd, hcount, rankValue_around_limit] at hbelow
  simp only [hodd, and_false, or_false] at hbelow
  rw [← not_lt, ← not_lt, Nat.lt_iff_le_pred (by decide), hbelow, mul_lt_mul_iff_right₀ two_pos]

theorem nearest?_eq_some_iff_nearest (hd : 0 < d) (hx : x * one * d = n) :
    nearest? n d = some m ↔ x < limit ∧ Nearest x m := by
  rw [← not_le, limit_le_iff hd hx, not_le]
  constructor
  · intro h
    have hrank : nearestRank n d = m.rank := nearest?_eq_some_iff.mp h
    exact ⟨hrank ▸ m.rank_lt, nearest_of_nearestRank hd hx hrank⟩
  · rintro ⟨hlt, hm⟩
    have hk : Nearest x ⟨nearestRank n d, hlt⟩ := nearest_of_nearestRank hd hx rfl
    rw [nearest?_eq_some_iff, ← hm.unique hk]

end Magnitude

namespace Decimal

open Magnitude (limit Nearest)

def value (d : Decimal) : ℚ := d.digits * 10 ^ d.exponent

theorem ten_zpow_mul (g : Int) : (10 : ℚ) ^ g * powerOfTen (-g) = powerOfTen g := by
  obtain ⟨k, rfl | rfl⟩ := g.eq_nat_or_neg
  · rw [powerOfTen_of_nonpos (by omega), Nat.cast_one, mul_one, zpow_natCast]
    exact (Nat.cast_pow 10 k).symm
  · have hpow : (powerOfTen (k : Int) : ℚ) = 10 ^ k := Nat.cast_pow 10 k
    rw [powerOfTen_of_nonpos (g := -(k : Int)) (by omega), neg_neg, hpow, zpow_neg, zpow_natCast, Nat.cast_one]
    exact inv_mul_cancel₀ (pow_ne_zero k (by decide))

theorem value_mul (d : Decimal) : d.value * Magnitude.one * d.denominator = d.numerator := by
  calc d.digits * (10 : ℚ) ^ d.exponent * Magnitude.one * powerOfTen (-d.exponent)
      = d.digits * ((10 : ℚ) ^ d.exponent * powerOfTen (-d.exponent)) * Magnitude.one := by ring
    _ = d.digits * powerOfTen d.exponent * Magnitude.one := by rw [ten_zpow_mul]
    _ = d.numerator := by rw [numerator]; push_cast; rfl

variable {d : Decimal} {m : Magnitude}

theorem nearest?_eq_some_iff_nearest : d.nearest? = some m ↔ d.value < limit ∧ Nearest d.value m := by
  rw [nearest?_eq]
  exact Magnitude.nearest?_eq_some_iff_nearest d.denominator_pos d.value_mul

theorem exists_nearest?_of_lt (h : d.value < limit) : ∃ m, d.nearest? = some m := by
  rw [← not_le, Magnitude.limit_le_iff d.denominator_pos d.value_mul, not_le] at h
  rw [nearest?_eq]
  exact ⟨⟨_, h⟩, Magnitude.nearest?_eq_some_iff.mpr rfl⟩

end Decimal

end Plotter
