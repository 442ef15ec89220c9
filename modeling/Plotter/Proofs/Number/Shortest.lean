import Mathlib.Data.Option.Basic
import Plotter.Proofs.Number.Decimal

namespace Plotter

namespace Magnitude

variable {m : Magnitude}

theorem rank_pos (hm : m ≠ .zero) : 0 < m.rank := by
  apply Nat.pos_of_ne_zero
  intro h
  apply hm
  obtain ⟨rank, hrank⟩ := m
  obtain rfl : rank = 0 := h
  rfl

theorem units_pos (hm : m ≠ .zero) : 0 < m.units :=
  (Nat.zero_le _).trans_lt (unitsOfRank_strictMono (rank_pos hm))

theorem log2_units_lt (hm : m ≠ .zero) : m.units.log2 < 2098 := by
  have hunits : m.units < unitsOfRank count := unitsOfRank_strictMono m.rank_lt
  have hlog {a b : Nat} (h : m.units < 2 ^ a * 2 ^ b) : m.units.log2 < a + b := by
    rwa [Nat.log2_lt (units_pos hm).ne', Nat.pow_add]
  obtain ⟨k, rfl, hone⟩ := exists_one_eq
  rw [unitsOfRank_count, hone] at hunits
  exact hlog hunits

theorem unitsOfRank_succ_le (hm : m ≠ .zero) : unitsOfRank (m.rank + 1) ≤ 2 * m.units := by
  have hstep : 2 ^ (m.units.log2 - 52) ≤ m.units := by
    calc 2 ^ (m.units.log2 - 52) ≤ 2 ^ m.units.log2 := Nat.pow_le_pow_right (by decide) (Nat.sub_le _ _)
      _ ≤ m.units := Nat.log2_self_le (units_pos hm).ne'
  rw [unitsOfRank_succ]
  show m.units + 2 ^ (m.units.log2 - 52) ≤ 2 * m.units
  omega

end Magnitude

namespace Decimal

section

variable {x y p q a b : Nat}

theorem pow_le_pow_of_base (hy : 0 < y) (hp : p ≠ 0) (hbase : x ^ p ≤ y ^ q) (h : q * a ≤ p * b) :
    x ^ a ≤ y ^ b := by
  rw [← Nat.pow_le_pow_iff_left hp]
  calc (x ^ a) ^ p = (x ^ p) ^ a := Nat.pow_right_comm ..
    _ ≤ (y ^ q) ^ a := Nat.pow_le_pow_left hbase a
    _ = y ^ (q * a) := (Nat.pow_mul ..).symm
    _ ≤ y ^ (p * b) := Nat.pow_le_pow_right hy h
    _ = (y ^ b) ^ p := by rw [Nat.pow_right_comm, Nat.pow_mul]

theorem two_pow_le_ten_pow (h : 30103 * a ≤ 100000 * b) : 2 ^ a ≤ 10 ^ b :=
  pow_le_pow_of_base (by decide) (by decide) (by decide +kernel) h

theorem ten_pow_le_two_pow (h : 100000 * b ≤ 30102 * a) : 10 ^ b ≤ 2 ^ a :=
  pow_le_pow_of_base (by decide) (by decide) (by decide +kernel) h

/-- Powers of two against powers of ten by their exponents. The logarithm of two lies between `0.30102`
and `0.30103`. -/
theorem two_pow_mul_le {g : Int} (hlow : 30102 * ((a : Int) - b) ≤ 100000 * g)
    (hhigh : 30103 * ((a : Int) - b) ≤ 100000 * g) : 2 ^ a * powerOfTen (-g) ≤ 2 ^ b * powerOfTen g := by
  obtain ⟨k, rfl | rfl⟩ := g.eq_nat_or_neg
  · have hk : powerOfTen (-(k : Int)) = 1 := powerOfTen_of_nonpos (by omega)
    rw [hk, Nat.mul_one]
    obtain hab | hba := Nat.le_total a b
    · calc 2 ^ a ≤ 2 ^ b := Nat.pow_le_pow_right (by decide) hab
        _ ≤ 2 ^ b * powerOfTen k := Nat.le_mul_of_pos_right _ (powerOfTen_pos _)
    · calc 2 ^ a = 2 ^ b * 2 ^ (a - b) := by rw [← Nat.pow_add, Nat.add_sub_cancel' hba]
        _ ≤ 2 ^ b * powerOfTen k := Nat.mul_le_mul_left _ (two_pow_le_ten_pow (by omega))
  · have hk : powerOfTen (-(k : Int)) = 1 := powerOfTen_of_nonpos (by omega)
    rw [hk, Nat.mul_one, neg_neg]
    calc 2 ^ a * powerOfTen k ≤ 2 ^ a * 2 ^ (b - a) := Nat.mul_le_mul_left _ (ten_pow_le_two_pow (by omega))
      _ = 2 ^ b := by rw [← Nat.pow_add, Nat.add_sub_cancel' (by omega)]

end

/-- From one multiple of `10 ^ g` to the next, over `powerOfTen (-g)`. -/
@[irreducible] def step (g : Int) : Nat := Magnitude.one * powerOfTen g

/-- How far the decimal is from the magnitude, over the denominator of the decimal. -/
def distance (d : Decimal) (m : Magnitude) : Nat := (d.numerator - m.units * d.denominator : Int).natAbs

/-- For decimals with one exponent: the first is not so far from the magnitude as the second, or just
as far and not the lower one. -/
def Closer (m : Magnitude) (d e : Decimal) : Prop :=
  d.distance m < e.distance m ∨ d.distance m = e.distance m ∧ e.digits ≤ d.digits

variable {m : Magnitude} {d e : Decimal} {x y q r : Nat} {g : Int}

theorem Closer.trans {c : Decimal} (h : Closer m c d) (h' : Closer m d e) : Closer m c e := by
  rw [Closer] at h h' ⊢
  omega

theorem step_eq (g : Int) : step g = Magnitude.one * powerOfTen g := by rw [step]

theorem step_pos (g : Int) : 0 < step g := by
  rw [step_eq]
  exact Nat.mul_pos Magnitude.one_pos (powerOfTen_pos g)

@[simp] theorem numerator_eq (x : Nat) (g : Int) : numerator ⟨x, g⟩ = x * step g := by
  rw [numerator, step_eq, Nat.mul_assoc, Nat.mul_comm Magnitude.one]

theorem numerator_mono (h : x ≤ y) (g : Int) : numerator ⟨x, g⟩ ≤ numerator ⟨y, g⟩ := by
  rw [numerator_eq, numerator_eq]
  exact Nat.mul_le_mul_right _ h

theorem nearest?_eq_some_iff : d.nearest? = some m ↔ Magnitude.nearestRank d.numerator d.denominator = m.rank := by
  rw [nearest?_eq, Magnitude.nearest?_eq_some_iff]

theorem digits_pos_of_nearest? (hm : m ≠ .zero) (h : d.nearest? = some m) : 0 < d.digits := by
  apply Nat.pos_of_ne_zero
  intro hz
  rw [nearest?, if_pos hz, Option.some_inj] at h
  exact hm h.symm

/-- Between a decimal and the magnitude it is nearest to, all others are nearest to that magnitude. -/
theorem nearest?_of_le (h : nearest? ⟨x, g⟩ = some m) (hxy : x ≤ y)
    (hy : numerator ⟨y, g⟩ ≤ m.units * powerOfTen (-g)) : nearest? ⟨y, g⟩ = some m := by
  have hd : 0 < powerOfTen (-g) := powerOfTen_pos _
  rw [nearest?_eq_some_iff] at h ⊢
  apply Nat.le_antisymm (Magnitude.nearestRank_le hd hy)
  rw [← h]
  exact Magnitude.nearestRank_mono hd hd (Nat.mul_le_mul_right _ (numerator_mono hxy g))

theorem nearest?_of_ge (h : nearest? ⟨y, g⟩ = some m) (hxy : x ≤ y)
    (hx : m.units * powerOfTen (-g) ≤ numerator ⟨x, g⟩) : nearest? ⟨x, g⟩ = some m := by
  have hd : 0 < powerOfTen (-g) := powerOfTen_pos _
  rw [nearest?_eq_some_iff] at h ⊢
  apply Nat.le_antisymm _ (Magnitude.le_nearestRank hd hx)
  rw [← h]
  exact Magnitude.nearestRank_mono hd hd (Nat.mul_le_mul_right _ (numerator_mono hxy g))

/-- The magnitude is past the multiple `q` of `10 ^ g` by `r`, and before the next multiple. -/
structure Past (m : Magnitude) (g : Int) (q r : Nat) : Prop where
  units_eq : m.units * powerOfTen (-g) = q * step g + r
  rest_lt : r < step g

namespace Past

theorem div_mod (m : Magnitude) (g : Int) :
    Past m g (m.units * powerOfTen (-g) / step g) (m.units * powerOfTen (-g) % step g) :=
  ⟨(Nat.div_add_mod' _ _).symm, Nat.mod_lt _ (step_pos g)⟩

variable (h : Past m g q r)

include h

theorem distance_lower {j : Nat} (hx : x + j = q) : distance ⟨x, g⟩ m = j * step g + r := by
  have hd : m.units * denominator ⟨x, g⟩ = numerator ⟨x, g⟩ + (j * step g + r) := by
    rw [numerator_eq, ← Nat.add_assoc, ← Nat.add_mul, hx]
    exact h.units_eq
  rw [distance, ← Nat.cast_mul, hd]
  omega

theorem distance_upper {j : Nat} (hx : x = q + 1 + j) : distance ⟨x, g⟩ m = j * step g + (step g - r) := by
  have hr := h.rest_lt
  have hd : numerator ⟨x, g⟩ = m.units * denominator ⟨x, g⟩ + (j * step g + (step g - r)) := by
    have hsum : q * step g + step g + j * step g = q * step g + r + (j * step g + (step g - r)) := by omega
    rw [numerator_eq, hx, Nat.add_mul, Nat.add_mul, Nat.one_mul, hsum, ← h.units_eq]
    rfl
  rw [distance, ← Nat.cast_mul, hd]
  omega

theorem closer_lower (hx : x ≤ q) : Closer m ⟨q, g⟩ ⟨x, g⟩ := by
  obtain ⟨j, hj⟩ := Nat.exists_eq_add_of_le hx
  rw [Closer, h.distance_lower (Nat.add_zero q), h.distance_lower hj.symm]
  simp only
  omega

theorem closer_upper (hx : q + 1 ≤ x) : Closer m ⟨q + 1, g⟩ ⟨x, g⟩ := by
  obtain ⟨j, hj⟩ := Nat.exists_eq_add_of_le hx
  rw [Closer, h.distance_upper (Nat.add_zero (q + 1)).symm, h.distance_upper hj]
  simp only
  obtain rfl | hpos := Nat.eq_zero_or_pos j
  · omega
  · have hstep : 0 < j * step g := Nat.mul_pos hpos (step_pos g)
    omega

theorem closer_of_lt (hr : 2 * r < step g) : Closer m ⟨q, g⟩ ⟨q + 1, g⟩ := by
  rw [Closer, h.distance_lower (Nat.add_zero q), h.distance_upper (Nat.add_zero (q + 1)).symm]
  omega

theorem closer_of_le (hr : step g ≤ 2 * r) : Closer m ⟨q + 1, g⟩ ⟨q, g⟩ := by
  have hlt := h.rest_lt
  rw [Closer, h.distance_lower (Nat.add_zero q), h.distance_upper (Nat.add_zero (q + 1)).symm]
  simp only
  omega

/-- If any multiple is nearest to the magnitude, then so is the last before it or the first past it,
whichever is on the same side. -/
theorem nearest?_or (hx : nearest? ⟨x, g⟩ = some m) :
    nearest? ⟨q, g⟩ = some m ∧ Closer m ⟨q, g⟩ ⟨x, g⟩ ∨
      nearest? ⟨q + 1, g⟩ = some m ∧ Closer m ⟨q + 1, g⟩ ⟨x, g⟩ := by
  have hr := h.rest_lt
  obtain hqx | hxq := Nat.lt_or_ge q x
  · refine .inr ⟨nearest?_of_ge hx hqx ?_, h.closer_upper hqx⟩
    rw [numerator_eq, h.units_eq, Nat.succ_mul]
    omega
  · refine .inl ⟨nearest?_of_le hx hxq ?_, h.closer_lower hxq⟩
    rw [numerator_eq, h.units_eq]
    omega

end Past

theorem around_eq (m : Magnitude) (g : Int) :
    ∃ a b, around m g = [a, b] ∧ a.exponent = g ∧ b.exponent = g ∧ Closer m a b ∧
      ∀ e : Decimal, e.exponent = g → e.nearest? = some m →
        a.nearest? = some m ∧ Closer m a e ∨ b.nearest? = some m ∧ Closer m b e := by
  have h := Past.div_mod m g
  simp only [around, ← step_eq]
  split
  next hr =>
    refine ⟨_, _, rfl, rfl, rfl, h.closer_of_lt hr, ?_⟩
    rintro ⟨x, _⟩ rfl hx
    exact h.nearest?_or hx
  next hr =>
    refine ⟨_, _, rfl, rfl, rfl, h.closer_of_le (Nat.le_of_not_lt hr), ?_⟩
    rintro ⟨x, _⟩ rfl hx
    exact (h.nearest?_or hx).symm

theorem exponent_ne_of_find?_around (h : ((around m g).find? fun d => d.nearest? = some m) = none)
    (he : e.nearest? = some m) : e.exponent ≠ g := by
  obtain ⟨a, b, haround, -, -, -, hnear⟩ := around_eq m g
  rw [haround, List.find?_eq_none] at h
  intro hg
  obtain ⟨ha, -⟩ | ⟨hb, -⟩ := hnear e hg he
  · simpa [ha] using h a
  · simpa [hb] using h b

theorem closer_of_find?_around (h : ((around m g).find? fun d => d.nearest? = some m) = some d) :
    d.exponent = g ∧ ∀ e : Decimal, e.nearest? = some m → e.exponent = g → Closer m d e := by
  obtain ⟨a, b, haround, hag, hbg, hab, hnear⟩ := around_eq m g
  rw [haround, List.find?_cons] at h
  split at h
  next ha =>
    cases h
    refine ⟨hag, fun e he hg => ?_⟩
    obtain ⟨-, hae⟩ | ⟨-, hbe⟩ := hnear e hg he
    · exact hae
    · exact hab.trans hbe
  next ha =>
    obtain rfl : d = b := List.mem_singleton.mp (List.mem_of_find?_eq_some h)
    refine ⟨hbg, fun e he hg => ?_⟩
    obtain ⟨hread, -⟩ | ⟨-, hbe⟩ := hnear e hg he
    · simp [hread] at ha
    · exact hbe

theorem exponent_le_firstExponent (hm : m ≠ .zero) (h : d.nearest? = some m) : d.exponent ≤ firstExponent m := by
  -- A multiple of a greater power of ten is so far past the magnitude that the next magnitude is nearer.
  by_contra hlt
  obtain ⟨n, exponent⟩ := d
  obtain ⟨j, rfl⟩ : ∃ j : Nat, firstExponent m + 1 + j = exponent := Int.le.dest (Int.not_le.mp hlt)
  rw [← nearest?_shift] at h
  generalize hg : firstExponent m + 1 = g at h
  have hdigits : 0 < n * 10 ^ j := digits_pos_of_nearest? hm h
  have hunits : 2 * m.units ≤ 2 ^ (m.units.log2 + 2) := by
    have hlog : m.units < 2 ^ (m.units.log2 + 1) := Nat.lt_log2_self
    rw [Nat.pow_succ]
    omega
  have hstep : 2 ^ (m.units.log2 + 2) * powerOfTen (-g) ≤ step g := by
    obtain ⟨k, hk, hone⟩ := Magnitude.exists_one_eq
    have hlog := Magnitude.log2_units_lt hm
    rw [firstExponent] at hg
    rw [step_eq, hone]
    exact two_pow_mul_le (by omega) (by omega)
  have hn : Magnitude.unitsOfRank (m.rank + 1) * powerOfTen (-g) ≤ numerator ⟨n * 10 ^ j, g⟩ := by
    calc Magnitude.unitsOfRank (m.rank + 1) * powerOfTen (-g)
        ≤ 2 ^ (m.units.log2 + 2) * powerOfTen (-g) :=
          Nat.mul_le_mul_right _ ((Magnitude.unitsOfRank_succ_le hm).trans hunits)
      _ ≤ step g := hstep
      _ ≤ n * 10 ^ j * step g := Nat.le_mul_of_pos_left _ hdigits
      _ = numerator ⟨n * 10 ^ j, g⟩ := (numerator_eq _ _).symm
  have hnext : m.rank + 1 ≤ Magnitude.nearestRank (numerator ⟨n * 10 ^ j, g⟩) (powerOfTen (-g)) :=
    Magnitude.le_nearestRank (powerOfTen_pos _) hn
  have hrank : Magnitude.nearestRank (numerator ⟨n * 10 ^ j, g⟩) (powerOfTen (-g)) = m.rank :=
    nearest?_eq_some_iff.mp h
  omega

theorem exists_nearest? (hm : m ≠ .zero) :
    ∃ e : Decimal, e.exponent = firstExponent m - 19 ∧ e.nearest? = some m := by
  -- Within twenty tries the steps get so small that the first multiple past the magnitude is nearest to it.
  generalize hg : firstExponent m - 19 = g
  have hd : 0 < powerOfTen (-g) := powerOfTen_pos _
  have hstep : 4 * step g ≤ 2 ^ (m.units.log2 - 52) * powerOfTen (-g) := by
    obtain ⟨k, hk, hone⟩ := Magnitude.exists_one_eq
    have hlog := Magnitude.log2_units_lt hm
    rw [firstExponent] at hg
    have hpow : 2 ^ (2 + k) * powerOfTen (- -g) ≤ 2 ^ (m.units.log2 - 52) * powerOfTen (-g) :=
      two_pow_mul_le (by omega) (by omega)
    rwa [Nat.pow_add, ← hone, Nat.mul_assoc, neg_neg, ← step_eq] at hpow
  obtain ⟨q, r, hunits, hr⟩ : ∃ q r, Past m g q r := ⟨_, _, Past.div_mod m g⟩
  refine ⟨⟨q + 1, g⟩, rfl, ?_⟩
  rw [nearest?_eq_some_iff, numerator_eq, Nat.succ_mul]
  show Magnitude.nearestRank _ (powerOfTen (-g)) = _
  apply Nat.le_antisymm
  · rw [Magnitude.nearestRank_le_iff hd]
    left
    rw [Magnitude.unitsOfRank_succ, ← Nat.add_assoc, Nat.add_mul, Nat.add_mul]
    show 2 * _ < m.units * powerOfTen (-g) + m.units * powerOfTen (-g) + 2 ^ (m.units.log2 - 52) * powerOfTen (-g)
    omega
  · apply Magnitude.le_nearestRank hd
    show m.units * powerOfTen (-g) ≤ _
    omega

theorem length_le_of_exponent_le (hd : d.nearest? = some m)
    (hexponent : ∀ e : Decimal, e.nearest? = some m → e.exponent ≤ d.exponent) (he : e.nearest? = some m) :
    (Text.ofNat d.digits).length ≤ (Text.ofNat e.digits).length := by
  -- No decimal with fewer digits is nearest to the magnitude: there would be a power of ten between it and
  -- this one, whose exponent is greater.
  obtain ⟨y, g⟩ := d
  obtain ⟨x, g'⟩ := e
  obtain ⟨j, rfl⟩ : ∃ j : Nat, g' + j = g := Int.le.dest (hexponent _ he)
  rw [← nearest?_shift] at hd
  by_contra hlt
  have hpos : 0 < (Text.ofNat x).length := Nat.length_toDigits_pos
  generalize hk : (Text.ofNat x).length = k at hlt hpos
  have hlower : x ≤ 10 ^ (k + j) := by
    have hx : x < 10 ^ k := (Nat.length_toDigits_le_iff (by decide) hpos).mp hk.le
    exact hx.le.trans (Nat.pow_le_pow_right (by decide) (Nat.le_add_right k j))
  have hupper : 10 ^ (k + j) ≤ y * 10 ^ j := by
    have hky : ¬ y < 10 ^ k := by rwa [← Nat.length_toDigits_le_iff (by decide) hpos]
    rw [Nat.pow_add]
    exact Nat.mul_le_mul_right _ (Nat.le_of_not_lt hky)
  have hpower : nearest? ⟨1, g' + (k + j : Nat)⟩ = some m := by
    rw [← nearest?_shift, Nat.one_mul]
    obtain hle | hge := Nat.le_total (numerator ⟨10 ^ (k + j), g'⟩) (m.units * powerOfTen (-g'))
    · exact nearest?_of_le he hlower hle
    · exact nearest?_of_ge hd hupper hge
  have hle : g' + (k + j : Nat) ≤ g' + j := hexponent _ hpower
  omega

/-- Of the decimals that are nearest to the magnitude, this one has the fewest digits, by the greatest
exponent; of those with this exponent it is the closest, and the upper one of two at one distance. -/
structure IsShortest (m : Magnitude) (d : Decimal) : Prop where
  nearest : d.nearest? = some m
  length_le : ∀ e : Decimal, e.nearest? = some m → (Text.ofNat d.digits).length ≤ (Text.ofNat e.digits).length
  exponent_le : ∀ e : Decimal, e.nearest? = some m → e.exponent ≤ d.exponent
  closer : ∀ e : Decimal, e.nearest? = some m → e.exponent = d.exponent → Closer m d e

theorem IsShortest.unique (h : IsShortest m d) (h' : IsShortest m e) : d = e := by
  have hexponent : d.exponent = e.exponent := Int.le_antisymm (h'.exponent_le d h.nearest) (h.exponent_le e h'.nearest)
  have hde : Closer m d e := h.closer e h'.nearest hexponent.symm
  have hed : Closer m e d := h'.closer d h.nearest hexponent
  have hdigits : d.digits = e.digits := by
    rw [Closer] at hde hed
    omega
  cases d
  cases e
  rw [Decimal.mk.injEq]
  exact ⟨hdigits, hexponent⟩

theorem isShortest_of_search? {tries : Nat} (hg : ∀ e : Decimal, e.nearest? = some m → e.exponent ≤ g)
    (h : search? m tries g = some d) : IsShortest m d := by
  induction tries generalizing g with
  | zero => cases h
  | succ tries ih =>
      rw [search?, Option.orElse_eq_some] at h
      obtain h | ⟨hnone, h⟩ := h
      · obtain ⟨rfl, hcloser⟩ := closer_of_find?_around h
        have hd : d.nearest? = some m := by simpa using List.find?_some h
        exact ⟨hd, fun e he => length_le_of_exponent_le hd hg he, hg, hcloser⟩
      · refine ih (fun e he => ?_) h
        have hne : e.exponent ≠ g := exponent_ne_of_find?_around hnone he
        have hle : e.exponent ≤ g := hg e he
        omega

theorem exponent_le_of_search? {tries : Nat} (hg : e.exponent ≤ g) (he : e.nearest? = some m)
    (h : search? m tries g = none) : e.exponent ≤ g - tries := by
  induction tries generalizing g with
  | zero => simpa using hg
  | succ tries ih =>
      rw [search?, Option.orElse_eq_none] at h
      have hne : e.exponent ≠ g := exponent_ne_of_find?_around h.1 he
      have hle : e.exponent ≤ g - 1 - tries := ih (by omega) h.2
      omega

theorem isShortest_shortest (hm : m ≠ .zero) : IsShortest m (shortest m) := by
  have hfirst : ∀ e : Decimal, e.nearest? = some m → e.exponent ≤ firstExponent m :=
    fun e he => exponent_le_firstExponent hm he
  rw [shortest, if_neg hm]
  cases h : search? m 20 (firstExponent m) with
  | none =>
      obtain ⟨e, hexponent, he⟩ := exists_nearest? hm
      have hle := exponent_le_of_search? (hfirst e he) he h
      push_cast at hle
      omega
  | some d => exact isShortest_of_search? hfirst h

/-- Among the decimals of a magnitude that is not zero, there is one shortest, and it is found. -/
theorem isShortest_iff (hm : m ≠ .zero) : IsShortest m d ↔ d = shortest m := by
  constructor
  · intro h
    exact h.unique (isShortest_shortest hm)
  · rintro rfl
    exact isShortest_shortest hm

example : shortest ⟨1, by decide⟩ = ⟨5, -324⟩ := by decide +kernel

@[simp] theorem nearest?_shortest (m : Magnitude) : (shortest m).nearest? = some m := by
  by_cases hm : m = .zero
  · rw [hm]
    rfl
  · exact (isShortest_shortest hm).nearest

end Decimal

end Plotter
