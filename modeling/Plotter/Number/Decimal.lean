import Plotter.Number
import Plotter.Text

namespace Plotter

structure Decimal where
  digits : Nat
  exponent : Int
deriving DecidableEq

namespace Decimal

/-- The power of ten with exponent `g` is `powerOfTen g` over `powerOfTen (-g)`. -/
def powerOfTen (g : Int) : Nat := Nat.pow 10 g.toNat

def numerator (d : Decimal) : Nat := d.digits * powerOfTen d.exponent * Magnitude.one

def denominator (d : Decimal) : Nat := powerOfTen (-d.exponent)

/-- The magnitude nearest to the decimal, unless it lies past the last one. Since ten is more than
eight, the two middle tests settle an extreme exponent without raising ten to it. -/
def nearest? (d : Decimal) : Option Magnitude :=
  if d.digits = 0 then some .zero
  else if 1024 ≤ 3 * d.exponent then none
  else if (d.digits.log2 : Int) + 1076 ≤ 3 * -d.exponent then some .zero
  else Magnitude.nearest? d.numerator d.denominator

def exactly (m : Magnitude) : Decimal := ⟨m.units * Nat.pow 5 1074, -1074⟩

/-- The two multiples of `10 ^ g` around a magnitude, the nearer first; of two equally near, the
upper one. -/
def around (m : Magnitude) (g : Int) : List Decimal :=
  let n := m.units * powerOfTen (-g)
  let d := Magnitude.one * powerOfTen g
  let below : Decimal := ⟨n / d, g⟩
  let above : Decimal := ⟨n / d + 1, g⟩
  if 2 * (n % d) < d then [below, above] else [above, below]

/-- No greater power of ten has a multiple that could be nearest to the magnitude. -/
def firstExponent (m : Magnitude) : Int := ((m.units.log2 : Int) - 1073) * 30103 / 100000 + 1

def search? (m : Magnitude) : Nat → Int → Option Decimal
  | 0, _ => none
  | tries + 1, g => ((around m g).find? fun d => d.nearest? = some m) <|> search? m tries (g - 1)

/-- The decimal with the fewest digits among those nearest to `m`. Twenty tries always find it. -/
def shortest (m : Magnitude) : Decimal :=
  if m = .zero then ⟨0, 0⟩ else (search? m 20 (firstExponent m)).getD (exactly m)

/-- Written without an exponent: a digit stands before the point, and a whole number has no point. -/
def text (d : Decimal) : Text :=
  match d.exponent with
  | .ofNat zeros => Text.ofNat d.digits ++ List.replicate zeros '0'
  | .negSucc k =>
    let fraction := Text.ofNat (d.digits % Nat.pow 10 (k + 1))
    Text.ofNat (d.digits / Nat.pow 10 (k + 1)) ++ '.' :: List.replicate (k + 1 - fraction.length) '0' ++ fraction

end Decimal

end Plotter
