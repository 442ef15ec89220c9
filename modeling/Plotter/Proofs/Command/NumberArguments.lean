import Plotter.Proofs.Command.Signature
import Plotter.Proofs.Number.Literal

namespace Plotter

open Magnitude (Nearest limit)

namespace ArgumentKind

/-- What reading a token as a number comes to, by its exact value if it has one. -/
inductive NumberReading (token : Text) : Except CommandError Number → Prop
  | near {negative : Bool} {x : ℚ} {m : Magnitude} (hl : Literal token negative x) (hx : x < limit)
      (hm : Nearest x m) : NumberReading token (.ok (.finite negative m))
  | misfit (h : ∀ negative x, Literal token negative x → limit ≤ x) :
      NumberReading token (.error (.argumentFormat token number))

variable {token : Text} {n : Number}

theorem means_number_iff : number.Means token n ↔
    ∃ negative x m, Literal token negative x ∧ x < limit ∧ Nearest x m ∧ n = .finite negative m := by
  constructor
  · rintro ⟨hr, hf⟩
    cases n with
    | finite negative m =>
        obtain ⟨sign, unsigned, d, rfl, hs, hd, hm⟩ := Number.exists_written hr
        obtain ⟨hlt, hnear⟩ := Decimal.nearest?_eq_some_iff_nearest.mp hm
        exact ⟨negative, d.value, m, .intro hs hd, hlt, hnear, rfl⟩
    | infinite | nan => cases hf
  · rintro ⟨negative, x, m, hl, hlt, hnear, rfl⟩
    cases hl with
    | intro hs hd =>
        have hr := Number.read?_written hs hd
        rw [Decimal.nearest?_eq_some_iff_nearest.mpr ⟨hlt, hnear⟩] at hr
        exact ⟨hr, rfl⟩

theorem fits_number_iff : number.Fits token ↔ ∃ negative x, Literal token negative x ∧ x < limit := by
  constructor
  · rintro ⟨n, hn⟩
    obtain ⟨negative, x, m, hl, hlt, -⟩ := means_number_iff.mp hn
    exact ⟨negative, x, hl, hlt⟩
  · rintro ⟨negative, x, hl, hlt⟩
    cases hl with
    | @intro sign unsigned negative d hs hd =>
        obtain ⟨m, hm⟩ := Decimal.exists_nearest?_of_lt hlt
        have hnear := (Decimal.nearest?_eq_some_iff_nearest.mp hm).2
        exact ⟨.finite negative m, means_number_iff.mpr ⟨_, _, m, .intro hs hd, hlt, hnear, rfl⟩⟩

/-- A number argument is read exactly: what is accepted is a literal with a value before the limit, and it is read as
the number nearest to that value, of two equally near the even one. -/
theorem number_read_exactly (token : Text) :
    (∀ r, read number token = r ↔ NumberReading token r) ∧
      ∀ keyword tokens, Taking.number keyword (token :: tokens) = (read number token).map fun n => (n, tokens) := by
  have hsound {r : Except CommandError Number} (h : NumberReading token r) : read number token = r := by
    cases h with
    | near hl hx hm => exact (means_number_iff.mpr ⟨_, _, _, hl, hx, hm, rfl⟩).read
    | misfit h =>
        apply read_misfit
        rw [fits_number_iff]
        rintro ⟨negative, x, hl, hlt⟩
        exact absurd hlt (not_lt.mpr (h negative x hl))
  refine ⟨fun r => ⟨?_, hsound⟩, fun keyword tokens => Taking.value_cons keyword number token tokens⟩
  rintro rfl
  by_cases hf : number.Fits token
  · obtain ⟨n, hn⟩ := hf
    obtain ⟨negative, x, m, hl, hlt, hnear, rfl⟩ := means_number_iff.mp hn
    rw [hn.read]
    exact .near hl hlt hnear
  · rw [read_misfit hf]
    rw [fits_number_iff] at hf
    exact .misfit fun negative x hl => not_lt.mp fun hlt => hf ⟨negative, x, hl, hlt⟩

example : read number "-1e-400".toList = .ok (.finite true .zero) := by rfl

example : read number "Infinity".toList = .error (.argumentFormat "Infinity".toList number) := by rfl

end ArgumentKind

end Plotter
