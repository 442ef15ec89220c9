import Plotter.Proofs.Number.Nearest
import Plotter.Proofs.Number.Plain

namespace Plotter

open Text (Digits)

namespace Literal

inductive Sign : Text → Bool → Prop
  | none : Sign [] false
  | plus : Sign ['+'] false
  | minus : Sign ['-'] true

/-- A text, the digits in it, and how many of these stand after the point. -/
inductive Significand : Text → Text → Nat → Prop
  | whole {digits : Text} (h : Digits digits) : Significand digits digits 0
  | point {whole fraction : Text} (hw : ∀ c ∈ whole, c.isDigit) (hf : ∀ c ∈ fraction, c.isDigit)
      (hne : whole ++ fraction ≠ []) :
      Significand (whole ++ '.' :: fraction) (whole ++ fraction) fraction.length

inductive Exponent : Text → Int → Prop
  | none : Exponent [] 0
  | some {c : Char} {sign digits : Text} {negative : Bool} (hc : c = 'e' ∨ c = 'E') (hs : Sign sign negative)
      (hd : Digits digits) :
      Exponent (c :: (sign ++ digits))
        (if negative then -(Nat.ofDigitChars 10 digits 0 : Int) else Nat.ofDigitChars 10 digits 0)

end Literal

/-- A way to write a decimal without a sign. -/
inductive Decimal.Written : Text → Decimal → Prop
  | intro {significand digits exponent : Text} {places : Nat} {e : Int}
      (hs : Literal.Significand significand digits places) (he : Literal.Exponent exponent e) :
      Written (significand ++ exponent) ⟨Nat.ofDigitChars 10 digits 0, e - places⟩

/-- A number literal, whether it has a minus, and the exact value of what follows the sign. -/
inductive Literal : Text → Bool → ℚ → Prop
  | intro {sign unsigned : Text} {negative : Bool} {d : Decimal} (hs : Literal.Sign sign negative)
      (hd : d.Written unsigned) : Literal (sign ++ unsigned) negative d.value

theorem takeSign_spec (t : Text) : ∃ sign, Literal.Sign sign (takeSign t).1 ∧ t = sign ++ (takeSign t).2 := by
  cases t with
  | nil => exact ⟨[], .none, rfl⟩
  | cons c t =>
      by_cases hm : c = '-'
      · subst hm
        exact ⟨_, .minus, rfl⟩
      · by_cases hp : c = '+'
        · subst hp
          exact ⟨_, .plus, rfl⟩
        · have hnone : takeSign (c :: t) = (false, c :: t) := by simp [takeSign, hm, hp]
          rw [hnone]
          exact ⟨[], .none, rfl⟩

namespace Literal

variable {sign significand digits exponent rest t : Text} {negative : Bool} {places : Nat} {e : Int}

theorem Sign.takeSign_append (h : Sign sign negative) (hm : rest.head? ≠ some '-') (hp : rest.head? ≠ some '+') :
    takeSign (sign ++ rest) = (negative, rest) := by
  cases h with
  | plus | minus => rfl
  | none =>
      cases rest with
      | nil => rfl
      | cons c rest =>
          have hc : c ≠ '-' ∧ c ≠ '+' := ⟨fun h => hm (congrArg some h), fun h => hp (congrArg some h)⟩
          simp [takeSign, hc.1, hc.2]

theorem head?_ne_of_digits {c : Char} (h : Digits digits) (hc : c.isDigit = false) : digits.head? ≠ some c := by
  obtain ⟨d, digits, rfl⟩ := List.exists_cons_of_ne_nil h.1
  intro hd
  rw [← Option.some.inj hd, h.2 d List.mem_cons_self] at hc
  cases hc

theorem readDigits?_eq_some_iff {n : Nat} :
    Decimal.readDigits? t = some n ↔ Digits t ∧ Nat.ofDigitChars 10 t 0 = n := by
  rw [Decimal.readDigits?, Option.ite_none_right_eq_some, Option.some_inj, List.all_eq_true, Digits]

theorem readExponent?_cons {c : Char} (hc : c = 'e' ∨ c = 'E') (t : Text) :
    Decimal.readExponent? (c :: t) =
      (Decimal.readDigits? (takeSign t).2).map fun n : Nat => if (takeSign t).1 then -(n : Int) else n := by
  rw [Decimal.readExponent?, if_pos hc]
  obtain ⟨negative, digits⟩ := takeSign t
  cases hd : Decimal.readDigits? digits with
  | none => simp only [hd]; rfl
  | some n => simp only [hd]; rfl

theorem readExponent?_eq_some_iff : Decimal.readExponent? t = some e ↔ Exponent t e := by
  constructor
  · intro h
    cases t with
    | nil =>
        cases h
        exact .none
    | cons c t =>
        by_cases hc : c = 'e' ∨ c = 'E'
        · rw [readExponent?_cons hc] at h
          obtain ⟨n, hn, rfl⟩ := Option.map_eq_some_iff.mp h
          obtain ⟨hd, rfl⟩ := readDigits?_eq_some_iff.mp hn
          obtain ⟨sign, hs, ht⟩ := takeSign_spec t
          have hexponent := Exponent.some hc hs hd
          rwa [← ht] at hexponent
        · rw [Decimal.readExponent?, if_neg hc] at h
          cases h
  · intro h
    cases h with
    | none => rfl
    | @some c sign digits negative hc hs hd =>
        have htake : takeSign (sign ++ digits) = (negative, digits) :=
          hs.takeSign_append (head?_ne_of_digits hd rfl) (head?_ne_of_digits hd rfl)
        rw [readExponent?_cons hc, htake, readDigits?_eq_some_iff.mpr ⟨hd, rfl⟩]
        rfl

theorem Exponent.head (h : Exponent exponent e) : ∀ c ∈ exponent.head?, c.isDigit = false ∧ c ≠ '.' := by
  cases h with
  | none => simp
  | some hc =>
      rintro c ⟨⟩
      rcases hc with rfl | rfl <;> exact ⟨rfl, by decide⟩

theorem takeFraction_of_no_point (h : t.head? ≠ some '.') : Decimal.takeFraction t = ([], t) := by
  cases t with
  | nil => rfl
  | cons c t =>
      have hc : c ≠ '.' := fun hc => h (congrArg some hc)
      simp [Decimal.takeFraction, hc]

theorem Significand.parts (h : Significand significand digits places)
    (hr : ∀ c ∈ rest.head?, c.isDigit = false ∧ c ≠ '.') :
    ∃ whole fraction after, (significand ++ rest).span Char.isDigit = (whole, after) ∧
      Decimal.takeFraction after = (fraction, rest) ∧ whole ++ fraction = digits ∧ fraction.length = places := by
  cases h with
  | whole hd =>
      have hspan := Decimal.span_digits hd.2 fun c hc => (hr c hc).1
      have hfraction : Decimal.takeFraction rest = ([], rest) :=
        takeFraction_of_no_point fun hp => (hr '.' hp).2 rfl
      exact ⟨_, _, _, hspan, hfraction, List.append_nil _, rfl⟩
  | @point whole fraction hw hf hne =>
      have hspan : (whole ++ '.' :: (fraction ++ rest)).span Char.isDigit = (whole, '.' :: (fraction ++ rest)) :=
        Decimal.span_digits hw (by rintro c ⟨⟩; rfl)
      have hfraction : Decimal.takeFraction ('.' :: (fraction ++ rest)) = (fraction, rest) :=
        Decimal.span_digits hf fun c hc => (hr c hc).1
      rw [List.append_assoc, List.cons_append]
      exact ⟨_, _, _, hspan, hfraction, rfl, rfl⟩

theorem Significand.digits_ne_nil (h : Significand significand digits places) : digits ≠ [] := by
  cases h with
  | whole hd => exact hd.1
  | point _ _ hne => exact hne

theorem exists_significand {whole fraction after : Text} (hspan : t.span Char.isDigit = (whole, after))
    (hf : Decimal.takeFraction after = (fraction, rest)) (hne : whole ++ fraction ≠ []) :
    ∃ significand, Significand significand (whole ++ fraction) fraction.length ∧ t = significand ++ rest := by
  have hdigits {u v w : Text} (h : u.span Char.isDigit = (v, w)) : (∀ c ∈ v, c.isDigit) ∧ u = v ++ w := by
    rw [List.span_eq_takeWhile_dropWhile] at h
    cases h
    exact ⟨fun c hc => List.all_eq_true.mp List.all_takeWhile c hc, List.takeWhile_append_dropWhile.symm⟩
  obtain ⟨hwhole, rfl⟩ := hdigits hspan
  by_cases hpoint : after.head? = some '.'
  · obtain ⟨more, rfl⟩ := List.head?_eq_some_iff.mp hpoint
    obtain ⟨hfraction, rfl⟩ := hdigits (u := more) hf
    exact ⟨_, .point hwhole hfraction hne, by simp⟩
  · rw [takeFraction_of_no_point hpoint] at hf
    cases hf
    rw [List.append_nil] at hne ⊢
    exact ⟨whole, .whole ⟨hne, hwhole⟩, rfl⟩

end Literal

namespace Decimal

variable {t : Text} {d : Decimal}

theorem read?_eq_some_iff : read? t = some d ↔ Written t d := by
  constructor
  · intro h
    rcases hspan : t.span Char.isDigit with ⟨whole, after⟩
    rcases hf : takeFraction after with ⟨fraction, rest⟩
    simp only [read?, hspan, hf] at h
    split at h
    · cases h
    next hne =>
      obtain ⟨e, he, rfl⟩ := Option.map_eq_some_iff.mp h
      obtain ⟨significand, hs, rfl⟩ := Literal.exists_significand hspan hf hne
      exact .intro hs (Literal.readExponent?_eq_some_iff.mp he)
  · intro h
    cases h with
    | intro hs he =>
        obtain ⟨whole, fraction, after, hspan, hfraction, rfl, rfl⟩ := hs.parts he.head
        simp only [read?, hspan, hfraction, if_neg hs.digits_ne_nil, Literal.readExponent?_eq_some_iff.mpr he]
        rfl

theorem Written.exists_cons (h : d.Written t) : ∃ c rest, t = c :: rest ∧ (c.isDigit ∨ c = '.') := by
  cases h with
  | intro hs he =>
      cases hs with
      | whole hd =>
          obtain ⟨c, digits, hc⟩ := List.exists_cons_of_ne_nil hd.1
          subst hc
          exact ⟨c, _, rfl, .inl (hd.2 c List.mem_cons_self)⟩
      | @point whole fraction hw hf hne =>
          cases whole with
          | nil => exact ⟨'.', _, rfl, .inr rfl⟩
          | cons c whole => exact ⟨c, _, rfl, .inl (hw c List.mem_cons_self)⟩

end Decimal

namespace Number

variable {sign unsigned t : Text} {negative : Bool} {d : Decimal} {m : Magnitude}

theorem read?_written (hs : Literal.Sign sign negative) (hd : d.Written unsigned) :
    read? (sign ++ unsigned) = some (ofMagnitude negative d.nearest?) := by
  obtain ⟨c, rest, rfl, hc⟩ := hd.exists_cons
  have halpha : c.isAlpha = false := by
    rcases hc with hc | rfl
    · exact Text.isAlpha_of_isDigit hc
    · rfl
  have hsign {x : Char} (hx : x.isDigit = false) (hp : x ≠ '.') : (c :: rest).head? ≠ some x := by
    rintro ⟨⟩
    rcases hc with hc | hc
    · rw [hx] at hc
      cases hc
    · exact hp hc
  have htake := hs.takeSign_append (hsign rfl (by decide)) (hsign rfl (by decide))
  simp [read?, htake, ofWord?_cons halpha, ofDigits?, Decimal.read?_eq_some_iff.mpr hd]

theorem exists_written (h : read? t = some (.finite negative m)) :
    ∃ sign unsigned, ∃ d : Decimal, t = sign ++ unsigned ∧ Literal.Sign sign negative ∧ d.Written unsigned ∧
      d.nearest? = some m := by
  simp only [read?, Option.or_eq_some_iff] at h
  obtain hw | ⟨-, hd⟩ := h
  · cases not_finite_of_ofWord? hw
  · obtain ⟨d, hread, hn⟩ := Option.map_eq_some_iff.mp hd
    obtain ⟨sign, hs, ht⟩ := takeSign_spec t
    cases hm : d.nearest? with
    | none => simp [hm, ofMagnitude] at hn
    | some m' =>
        rw [hm, ofMagnitude, finite.injEq] at hn
        obtain ⟨hneg, rfl⟩ := hn
        exact ⟨sign, _, d, ht, hneg ▸ hs, Decimal.read?_eq_some_iff.mp hread, hm⟩

end Number

end Plotter
