import Plotter.Number.Decimal

namespace Plotter

def takeSign : Text → Bool × Text
  | '-' :: rest => (true, rest)
  | '+' :: rest => (false, rest)
  | rest => (false, rest)

namespace Decimal

def readDigits? (t : Text) : Option Nat :=
  if t ≠ [] ∧ t.all Char.isDigit then some (Nat.ofDigitChars 10 t 0) else none

def readExponent? : Text → Option Int
  | [] => some 0
  | c :: rest =>
    if c = 'e' ∨ c = 'E' then
      let (negative, digits) := takeSign rest
      (readDigits? digits).map fun n => if negative then -n else n
    else none

def takeFraction : Text → Text × Text
  | '.' :: rest => rest.span Char.isDigit
  | rest => ([], rest)

def read? (t : Text) : Option Decimal :=
  let (whole, afterWhole) := t.span Char.isDigit
  let (fraction, rest) := takeFraction afterWhole
  if whole ++ fraction = [] then none
  else (readExponent? rest).map fun e => ⟨Nat.ofDigitChars 10 (whole ++ fraction) 0, e - fraction.length⟩

end Decimal

namespace Number

/-- The word for no number at all, or for one past all others, in letters of either case. -/
def ofWord? (negative : Bool) (t : Text) : Option Number :=
  if Text.SameWord "nan".toList t then some nan
  else if Text.SameWord "inf".toList t ∨ Text.SameWord "infinity".toList t then some (infinite negative)
  else none

/-- The number nearest to the written decimal; zero keeps its sign. -/
def ofDigits? (negative : Bool) (t : Text) : Option Number :=
  (Decimal.read? t).map fun d => ofMagnitude negative d.nearest?

def read? (t : Text) : Option Number :=
  let (negative, unsigned) := takeSign t
  (ofWord? negative unsigned).or (ofDigits? negative unsigned)

def sign (negative : Bool) : Text := if negative then ['-'] else []

def text : Number → Text
  | finite negative m => sign negative ++ (Decimal.shortest m).text
  | infinite negative => sign negative ++ "inf".toList
  | nan => "NaN".toList

end Number

structure Point where
  x : Number
  y : Number
deriving DecidableEq

namespace Point

def origin : Point := ⟨.zero, .zero⟩

def text (p : Point) : Text := '(' :: p.x.text ++ ", ".toList ++ p.y.text ++ [')']

end Point

end Plotter
