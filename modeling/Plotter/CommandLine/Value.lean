import Plotter.Color
import Plotter.Number.Notation

namespace Plotter

inductive ValueError
  | unknownColor (name : Text)
  | outOfRange (value : Int)
  | emptyNumber
  | invalidDigit
  | tooLarge
  | tooSmall
deriving DecidableEq

def integerText (n : Int) : Text := Number.sign (n < 0) ++ Text.ofNat n.natAbs

def ValueError.message : ValueError → Text
  | unknownColor name => "unknown color name '".toList ++ name ++ ['\'']
  | outOfRange value => integerText value ++ " is not in 0..=4294967295".toList
  | emptyNumber => "cannot parse integer from empty string".toList
  | invalidDigit => "invalid digit found in string".toList
  | tooLarge => "number too large to fit in target type".toList
  | tooSmall => "number too small to fit in target type".toList

namespace Value

/-- Appends digits to the magnitude `n`. The first character that is no digit, or that leads out of
range, decides the error. -/
def appendDigits (negative : Bool) (n : Nat) : Text → Except ValueError Nat
  | [] => .ok n
  | c :: rest =>
    if !c.isDigit then .error .invalidDigit
    else if negative && 9223372036854775808 < 10 * n + (c.toNat - 48) then .error .tooSmall
    else if !negative && 9223372036854775807 < 10 * n + (c.toNat - 48) then .error .tooLarge
    else appendDigits negative (10 * n + (c.toNat - 48)) rest

def readInteger : Text → Except ValueError Int
  | [] => .error .emptyNumber
  | ['-'] | ['+'] => .error .invalidDigit
  | '-' :: digits => (appendDigits true 0 digits).map fun n => -n
  | '+' :: digits => (appendDigits false 0 digits).map fun n => n
  | digits => (appendDigits false 0 digits).map fun n => n

def readDimension (t : Text) : Except ValueError UInt32 :=
  match readInteger t with
  | .error e => .error e
  | .ok n => if 0 ≤ n ∧ n ≤ 4294967295 then .ok n.toNat.toUInt32 else .error (.outOfRange n)

def readColor (t : Text) : Except ValueError Color :=
  match NamedColor.named? t with
  | some n => .ok n.color
  | none => .error (.unknownColor t)

end Value

end Plotter
