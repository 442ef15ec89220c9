namespace Plotter

namespace Magnitude

/-- How many magnitudes follow each other at one step. -/
def block : Nat := Nat.pow 2 52

def count : Nat := 2047 * block

end Magnitude

/-- A finite magnitude, given by how many smaller ones there are. -/
structure Magnitude where
  rank : Nat
  rank_lt : rank < Magnitude.count
deriving DecidableEq

namespace Magnitude

def zero : Magnitude := ⟨0, by decide⟩

/-- The number one in units of `2 ^ (-1074)`, the smallest step between magnitudes. -/
def one : Nat := Nat.pow 2 1074

/-- The first two blocks count single units, and in each later block the step doubles. -/
def unitsOfRank (rank : Nat) : Nat :=
  if rank < block then rank else (block + rank % block) * Nat.pow 2 (rank / block - 1)

def units (m : Magnitude) : Nat := unitsOfRank m.rank

end Magnitude

inductive Number
  | finite (negative : Bool) (magnitude : Magnitude)
  | infinite (negative : Bool)
  | nan
deriving DecidableEq

namespace Number

def zero : Number := finite false .zero

def isFinite : Number → Bool
  | finite _ _ => true
  | infinite _ | nan => false

def isZero : Number → Bool
  | finite _ m => m = .zero
  | infinite _ | nan => false

def isNegative : Number → Bool
  | finite negative m => negative && m ≠ .zero
  | infinite negative => negative
  | nan => false

end Number

/-- The whole number nearest to `n / d`; a tie goes to the even neighbour. -/
def roundHalfEven (n d : Nat) : Nat :=
  if 2 * (n % d) < d then n / d
  else if d < 2 * (n % d) then n / d + 1
  else n / d + n / d % 2

namespace Magnitude

/-- The rank nearest to `n / d` units, were the ranks unbounded. Rounding within one block may end
at the first rank of the next, which is the right one. -/
def nearestRank (n d : Nat) : Nat :=
  let doublings := (n / d).log2 - 52
  doublings * block + roundHalfEven n (d * Nat.pow 2 doublings)

def nearest? (n d : Nat) : Option Magnitude :=
  if h : nearestRank n d < count then some ⟨nearestRank n d, h⟩ else none

end Magnitude

namespace Number

def ofMagnitude (negative : Bool) : Option Magnitude → Number
  | some m => finite negative m
  | none => infinite negative

def ofRatio (n d : Nat) : Number := ofMagnitude false (Magnitude.nearest? (n * Magnitude.one) d)

end Number

end Plotter
