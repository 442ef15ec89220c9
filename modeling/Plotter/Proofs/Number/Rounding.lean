import Mathlib.Algebra.Order.Ring.Nat
import Mathlib.Order.Monotone.Basic
import Mathlib.Tactic.Linarith
import Mathlib.Tactic.Ring
import Plotter.Number

namespace Plotter

section

variable {n d k : Nat}

theorem roundHalfEven_le_iff (hd : 0 < d) :
    roundHalfEven n d ≤ k ↔ 2 * n < (2 * k + 1) * d ∨ 2 * n = (2 * k + 1) * d ∧ k % 2 = 0 := by
  have hn : d * (n / d) + n % d = n := Nat.div_add_mod n d
  have hr : n % d < d := Nat.mod_lt n hd
  rw [roundHalfEven]
  generalize n / d = q at hn ⊢
  generalize n % d = r at hn hr ⊢
  obtain hlt | rfl | hgt := lt_trichotomy q k
  · obtain ⟨j, rfl⟩ := Nat.exists_eq_add_of_lt hlt
    have hmiddle : 2 * n < (2 * (q + j + 1) + 1) * d := by nlinarith
    simp only [hmiddle, true_or, iff_true]
    split
    · omega
    · split <;> omega
  · have hmiddle : (2 * q + 1) * d = 2 * (d * q) + d := by ring
    rw [hmiddle]
    split
    · omega
    · split <;> omega
  · obtain ⟨j, rfl⟩ := Nat.exists_eq_add_of_lt hgt
    have hmiddle : (2 * k + 1) * d < 2 * n := by nlinarith
    have hpast : ¬ (2 * n < (2 * k + 1) * d ∨ 2 * n = (2 * k + 1) * d ∧ k % 2 = 0) := by omega
    simp only [hpast, iff_false]
    split
    · omega
    · split <;> omega

theorem roundHalfEven_le (hd : 0 < d) (h : n ≤ k * d) : roundHalfEven n d ≤ k := by
  rw [roundHalfEven_le_iff hd]
  left
  rw [Nat.add_mul, Nat.mul_assoc]
  omega

theorem le_roundHalfEven (hd : 0 < d) (h : k * d ≤ n) : k ≤ roundHalfEven n d := by
  cases k with
  | zero => exact Nat.zero_le _
  | succ k =>
      apply Nat.succ_le_of_lt
      apply Nat.lt_of_not_le
      rw [roundHalfEven_le_iff hd]
      have hmiddle : (2 * k + 1) * d + d = 2 * ((k + 1) * d) := by ring
      omega

end

namespace Magnitude

theorem block_pos : 0 < block := by decide

theorem block_even : block % 2 = 0 := by decide

/-- Over two blocks, from the start of one, the units go up with the rank by equal steps. -/
theorem unitsOfRank_add {k j : Nat} (hk : k = 0 ∨ block ≤ j) (hj : j ≤ 2 * block) :
    unitsOfRank (k * block + j) = j * 2 ^ k := by
  have hb := block_pos
  rw [unitsOfRank]
  split
  next hlt =>
    obtain rfl : k = 0 := by
      obtain hk | hk := hk
      · exact hk
      · omega
    simp
  next hge =>
    obtain hj | rfl := Nat.lt_or_eq_of_le hj
    · have hbj : block ≤ j := by
        obtain rfl | hk := hk
        · omega
        · exact hk
      have hr : k * block + j = (j - block) + (k + 1) * block := by
        rw [Nat.succ_mul]
        omega
      have hdiv : (k * block + j) / block = k + 1 := by
        rw [hr, Nat.add_mul_div_right _ _ hb, Nat.div_eq_of_lt (by omega), Nat.zero_add]
      have hmod : (k * block + j) % block = j - block := by
        rw [hr, Nat.add_mul_mod_self_right, Nat.mod_eq_of_lt (by omega)]
      rw [hdiv, hmod, Nat.add_sub_cancel, Nat.add_sub_cancel' hbj]
      rfl
    · rw [← Nat.add_mul, Nat.mul_div_cancel _ hb, Nat.mul_mod_left, Nat.add_zero]
      show block * 2 ^ (k + 1) = 2 * block * 2 ^ k
      ring

theorem exists_block (r : Nat) : ∃ k j, r = k * block + j ∧ (k = 0 ∨ block ≤ j) ∧ j < 2 * block := by
  have hb := block_pos
  by_cases h : r < 2 * block
  · exact ⟨0, r, by omega, .inl rfl, h⟩
  · have hq : 1 ≤ r / block := by
      rw [Nat.le_div_iff_mul_le hb]
      omega
    have hr : block * (r / block) + r % block = r := Nat.div_add_mod r block
    have hm : r % block < block := Nat.mod_lt r hb
    obtain ⟨q, hq⟩ := Nat.exists_eq_add_of_le hq
    rw [hq, Nat.mul_add, Nat.mul_comm block q] at hr
    exact ⟨q, block + r % block, by omega, .inr (by omega), by omega⟩

theorem unitsOfRank_lt_succ (r : Nat) : unitsOfRank r < unitsOfRank (r + 1) := by
  obtain ⟨k, j, rfl, hk, hj⟩ := exists_block r
  have hk' : k = 0 ∨ block ≤ j + 1 := hk.imp_right (by omega)
  rw [unitsOfRank_add hk hj.le, Nat.add_assoc, unitsOfRank_add hk' hj]
  exact Nat.mul_lt_mul_of_pos_right (Nat.lt_succ_self j) (Nat.two_pow_pos k)

theorem unitsOfRank_strictMono : StrictMono unitsOfRank := strictMono_nat_of_lt_succ unitsOfRank_lt_succ

theorem log2_block {k j : Nat} (hk : k = 0 ∨ block ≤ j) (hj : j < 2 * block) : (j * 2 ^ k).log2 - 52 = k := by
  have hblock : block = 2 ^ 52 := rfl
  have hupper : j * 2 ^ k < 2 ^ (k + 53) := by
    calc j * 2 ^ k < 2 * block * 2 ^ k := Nat.mul_lt_mul_of_pos_right hj (Nat.two_pow_pos k)
      _ = 2 ^ (k + 53) := by rw [hblock]; ring
  by_cases hz : j * 2 ^ k = 0
  · obtain rfl : j = 0 := by simpa using hz
    simp only [Nat.le_zero, block_pos.ne', or_false] at hk
    rw [hk]
    rfl
  · have hlog : (j * 2 ^ k).log2 < k + 53 := (Nat.log2_lt hz).mpr hupper
    obtain rfl | hj := hk
    · omega
    · have hlower : k + 52 ≤ (j * 2 ^ k).log2 := by
        rw [Nat.le_log2 hz]
        calc 2 ^ (k + 52) = block * 2 ^ k := by rw [hblock]; ring
          _ ≤ j * 2 ^ k := Nat.mul_le_mul_right _ hj
      omega

theorem unitsOfRank_succ (r : Nat) : unitsOfRank (r + 1) = unitsOfRank r + 2 ^ ((unitsOfRank r).log2 - 52) := by
  obtain ⟨k, j, rfl, hk, hj⟩ := exists_block r
  have hk' : k = 0 ∨ block ≤ j + 1 := hk.imp_right (by omega)
  rw [Nat.add_assoc, unitsOfRank_add hk' hj, unitsOfRank_add hk hj.le, log2_block hk hj, Nat.succ_mul]

section

variable {n d r s : Nat}

/-- The ratio does not pass the middle between the rank and the next, where even ranks keep the middle. -/
def Below (n d r : Nat) : Prop :=
  2 * n < (unitsOfRank r + unitsOfRank (r + 1)) * d ∨
    2 * n = (unitsOfRank r + unitsOfRank (r + 1)) * d ∧ r % 2 = 0

theorem below_of_le (hd : 0 < d) (hn : n ≤ unitsOfRank s * d) (h : s ≤ r) : Below n d r := by
  left
  have hs : unitsOfRank s ≤ unitsOfRank r := unitsOfRank_strictMono.monotone h
  have hr : unitsOfRank r < unitsOfRank (r + 1) := unitsOfRank_lt_succ r
  have hmiddle : (2 * unitsOfRank s) * d < (unitsOfRank r + unitsOfRank (r + 1)) * d :=
    Nat.mul_lt_mul_of_pos_right (by omega) hd
  rw [Nat.mul_assoc] at hmiddle
  omega

theorem not_below_of_lt (hd : 0 < d) (hn : unitsOfRank s * d ≤ n) (h : r < s) : ¬ Below n d r := by
  have hs : unitsOfRank (r + 1) ≤ unitsOfRank s := unitsOfRank_strictMono.monotone h
  have hr : unitsOfRank r < unitsOfRank (r + 1) := unitsOfRank_lt_succ r
  have hmiddle : (unitsOfRank r + unitsOfRank (r + 1)) * d < (2 * unitsOfRank s) * d :=
    Nat.mul_lt_mul_of_pos_right (by omega) hd
  rw [Nat.mul_assoc] at hmiddle
  rw [Below]
  omega

/-- The doublings bring the ratio into the second of two blocks, or into the first at no doubling. -/
theorem doublings_spec (hd : 0 < d) :
    let k := (n / d).log2 - 52
    (k = 0 ∨ block * (d * 2 ^ k) ≤ n) ∧ n < 2 * block * (d * 2 ^ k) := by
  intro k
  have hblock : block = 2 ^ 52 := rfl
  have hupper : n / d < 2 * block * 2 ^ k := by
    calc n / d < 2 ^ ((n / d).log2 + 1) := Nat.lt_log2_self
      _ ≤ 2 ^ (k + 53) := Nat.pow_le_pow_right (by decide) (by omega)
      _ = 2 * block * 2 ^ k := by rw [hblock]; ring
  constructor
  · by_cases hk : k = 0
    · exact .inl hk
    · right
      have hne : n / d ≠ 0 := by
        intro h
        simp [k, h] at hk
      have hlower : block * 2 ^ k ≤ n / d := by
        calc block * 2 ^ k = 2 ^ (52 + k) := by rw [hblock, Nat.pow_add]
          _ = 2 ^ (n / d).log2 := by congr 1; omega
          _ ≤ n / d := Nat.log2_self_le hne
      calc block * (d * 2 ^ k) = block * 2 ^ k * d := by ring
        _ ≤ n := (Nat.le_div_iff_mul_le hd).mp hlower
  · calc n < 2 * block * 2 ^ k * d := (Nat.div_lt_iff_lt_mul hd).mp hupper
      _ = 2 * block * (d * 2 ^ k) := by ring

theorem nearestRank_le_iff (hd : 0 < d) : nearestRank n d ≤ r ↔ Below n d r := by
  -- Ranks before the two blocks of the ratio and after them are settled by its place alone. Between these
  -- bounds the steps are equal, and what is rounded is a whole number.
  obtain ⟨hlower, hupper⟩ := doublings_spec (n := n) hd
  rw [nearestRank]
  generalize (n / d).log2 - 52 = k at hlower hupper ⊢
  show k * block + roundHalfEven n (d * 2 ^ k) ≤ r ↔ _
  have hD : 0 < d * 2 ^ k := Nat.mul_pos hd (Nat.two_pow_pos k)
  by_cases hlow : k ≠ 0 ∧ r < k * block + block
  · obtain ⟨hk, hr⟩ := hlow
    have hn : block * (d * 2 ^ k) ≤ n := hlower.resolve_left hk
    have hrank : block ≤ roundHalfEven n (d * 2 ^ k) := le_roundHalfEven hD hn
    have hunits : unitsOfRank (k * block + block) * d ≤ n := by
      rw [unitsOfRank_add (.inr le_rfl) (by omega), Nat.mul_assoc, Nat.mul_comm (2 ^ k)]
      exact hn
    have hbelow : ¬ Below n d r := not_below_of_lt hd hunits hr
    simp only [hbelow, iff_false]
    omega
  · by_cases hhigh : k * block + 2 * block ≤ r
    · have hrank : roundHalfEven n (d * 2 ^ k) ≤ 2 * block := roundHalfEven_le hD hupper.le
      have hunits : n ≤ unitsOfRank (k * block + 2 * block) * d := by
        rw [unitsOfRank_add (.inr (by omega)) le_rfl, Nat.mul_assoc, Nat.mul_comm (2 ^ k)]
        exact hupper.le
      have hbelow : Below n d r := below_of_le hd hunits hhigh
      simp only [hbelow, iff_true]
      omega
    · obtain ⟨j, rfl⟩ : ∃ j, r = k * block + j := by
        apply Nat.exists_eq_add_of_le
        by_cases hk : k = 0
        · simp [hk]
        · omega
      have hj : k = 0 ∨ block ≤ j := by omega
      have hj' : k = 0 ∨ block ≤ j + 1 := by omega
      have hparity : (k * block + j) % 2 = j % 2 := by simp [Nat.add_mod, Nat.mul_mod, block_even]
      have hmiddle : (j * 2 ^ k + (j + 1) * 2 ^ k) * d = (2 * j + 1) * (d * 2 ^ k) := by ring
      rw [Below, Nat.add_assoc, unitsOfRank_add hj (by omega), unitsOfRank_add hj' (by omega), hparity, hmiddle,
        ← roundHalfEven_le_iff hD]
      omega

theorem nearestRank_le (hd : 0 < d) (h : n ≤ unitsOfRank r * d) : nearestRank n d ≤ r :=
  (nearestRank_le_iff hd).mpr (below_of_le hd h le_rfl)

theorem le_nearestRank (hd : 0 < d) (h : unitsOfRank r * d ≤ n) : r ≤ nearestRank n d := by
  by_contra hlt
  exact not_below_of_lt hd h (Nat.lt_of_not_le hlt) ((nearestRank_le_iff hd).mp le_rfl)

theorem nearestRank_mono {n' d' : Nat} (hd : 0 < d) (hd' : 0 < d') (h : n * d' ≤ n' * d) :
    nearestRank n d ≤ nearestRank n' d' := by
  have hbelow : Below n' d' (nearestRank n' d') := (nearestRank_le_iff hd').mp le_rfl
  rw [nearestRank_le_iff hd]
  generalize nearestRank n' d' = r at hbelow ⊢
  rw [Below] at hbelow ⊢
  generalize unitsOfRank r + unitsOfRank (r + 1) = middle at hbelow ⊢
  have hdouble : 2 * n * d' ≤ 2 * n' * d := by
    rw [Nat.mul_assoc, Nat.mul_assoc]
    exact Nat.mul_le_mul_left 2 h
  obtain hlt | ⟨heq, heven⟩ := hbelow
  · left
    apply Nat.lt_of_mul_lt_mul_right (a := d')
    calc 2 * n * d' ≤ 2 * n' * d := hdouble
      _ < middle * d' * d := Nat.mul_lt_mul_of_pos_right hlt hd
      _ = middle * d * d' := Nat.mul_right_comm ..
  · have hle : 2 * n ≤ middle * d := by
      apply Nat.le_of_mul_le_mul_right _ hd'
      rwa [Nat.mul_right_comm middle, ← heq]
    obtain hlt | heq := Nat.lt_or_eq_of_le hle
    · exact .inl hlt
    · exact .inr ⟨heq, heven⟩

theorem nearest?_eq_some_iff {m : Magnitude} : nearest? n d = some m ↔ nearestRank n d = m.rank := by
  rw [nearest?]
  constructor
  · intro h
    split at h
    · cases h
      rfl
    · cases h
  · intro h
    obtain ⟨rank, hrank⟩ := m
    obtain rfl : nearestRank n d = rank := h
    rw [dif_pos hrank]

end

end Magnitude

end Plotter
