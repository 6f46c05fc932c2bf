/-! # Numerals

Counts are written in base ten, addresses in base sixteen after `0x`. A negative number is the
numeral of its magnitude after a minus sign, so `hex (-16)` is `-0x10`. Reading and writing in base
ten is limited to a number of digits.
-/

namespace HeapProbe

def decimal : Int → String
  | .ofNat n => String.ofList (Nat.toDigits 10 n)
  | .negSucc n => String.ofList ('-' :: Nat.toDigits 10 (n + 1))

def hex : Int → String
  | .ofNat n => String.ofList ('0' :: 'x' :: Nat.toDigits 16 n)
  | .negSucc n => String.ofList ('-' :: '0' :: 'x' :: Nat.toDigits 16 (n + 1))

/-- The most digits of a decimal numeral. -/
def maxDecimalDigits : Nat := 4300

def hasNumeral (n : Int) : Bool := (Nat.toDigits 10 n.natAbs).length ≤ maxDecimalDigits

end HeapProbe
