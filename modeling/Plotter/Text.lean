namespace Plotter

abbrev Text := List Char

abbrev Bytes := List UInt8

namespace Text

/-- Lowers the letters `A` to `Z` and leaves every other character alone. -/
def lower (t : Text) : Text := t.map Char.toLower

def SameWord (s t : Text) : Prop := lower s = lower t

instance (s t : Text) : Decidable (SameWord s t) := inferInstanceAs (Decidable (lower s = lower t))

def ofNat (n : Nat) : Text := Nat.toDigits 10 n

def join (separator : Char) (ts : List Text) : Text := [separator].intercalate ts

def line (t : Text) : Text := t ++ ['\n']

@[simp] theorem sameWord_refl (t : Text) : SameWord t t := rfl

theorem SameWord.symm {s t : Text} (h : SameWord s t) : SameWord t s := Eq.symm h

theorem SameWord.trans {s t u : Text} (h : SameWord s t) (k : SameWord t u) : SameWord s u := Eq.trans h k

def blankRuns : List (Nat × Nat) :=
  [(0x9, 0xD), (0x20, 0x20), (0x85, 0x85), (0xA0, 0xA0), (0x1680, 0x1680), (0x2000, 0x200A),
    (0x2028, 0x2029), (0x202F, 0x202F), (0x205F, 0x205F), (0x3000, 0x3000)]

def isBlank (c : Char) : Bool := blankRuns.any fun r => r.1 ≤ c.toNat && c.toNat ≤ r.2

def trimStart (t : Text) : Text := t.dropWhile isBlank

def trimEnd (t : Text) : Text := (trimStart t.reverse).reverse

def trim (t : Text) : Text := trimEnd (trimStart t)

def encode (t : Text) : Bytes := t.flatMap String.utf8EncodeChar

/-- Strict: no overlong forms, no surrogates and nothing above the last code point. -/
def decode? (bytes : Bytes) : Option Text := bytes.toByteArray.utf8Decode?.map Array.toList

end Text

namespace Bytes

/-- Cut after every line feed; what follows the last one is a chunk too unless it is empty. -/
def chunks : Bytes → List Bytes
  | [] => []
  | b :: rest =>
    if b = 10 then [b] :: chunks rest
    else
      match chunks rest with
      | [] => [[b]]
      | chunk :: more => (b :: chunk) :: more

end Bytes

end Plotter
