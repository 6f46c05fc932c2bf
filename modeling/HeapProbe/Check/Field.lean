import HeapProbe.Check.Issue
import HeapProbe.Settings.Value
import HeapProbe.Text.Integer

/-! # Checking fields

Values are taken as what they should be where that is plainly meant: an integer may be given as a
truth value, as a floating number without a fraction or as text, and a truth value as zero or one or
as one of several words. Text and lists are not made from anything else.
-/

namespace HeapProbe

def fitsRegister (n : Int) : Bool := -0x8000000000000000 ≤ n && n < 0x8000000000000000

/-- The integers that a floating number is taken as: those of a register but for the lowest. -/
def fitsFloat (n : Int) : Bool := -0x8000000000000000 < n && n < 0x8000000000000000

def falseWords : List String := ["0", "off", "f", "false", "n", "no"]

def trueWords : List String := ["1", "on", "t", "true", "y", "yes"]

namespace Value

def checkText : Value → Checked String
  | .text s => .sound s
  | _ => .problem .notText

def checkInt : Value → Checked Int
  | .int n => .sound n
  | .bool value => .sound (if value then 1 else 0)
  | .float (.finite mantissa exponent) =>
    match (Binary64.finite mantissa exponent).toInt? with
    | none => .problem .fractionalInt
    | some n => if fitsFloat n then .sound n else .problem .oversizedInt
  | .float _ => .problem .unboundedInt
  | .text s =>
    match readSetting s with
    | .ok n => .sound n
    | .error .oversized => .problem .oversizedInt
    | .error .unreadable => .problem .unreadableInt
  | _ => .problem .notInt

def ofBit (n : Int) : Checked Bool :=
  if n = 0 then .sound false else if n = 1 then .sound true else .problem .unreadableBool

def checkBool : Value → Checked Bool
  | .bool value => .sound value
  | .int n => if fitsRegister n then ofBit n else .problem .notBool
  | .float value =>
    match value.toInt? with
    | some n => if fitsFloat n then ofBit n else .problem .notBool
    | none => .problem .notBool
  | .text s =>
    if s.toLower ∈ falseWords then .sound false
    else if s.toLower ∈ trueWords then .sound true
    else .problem .unreadableBool
  | _ => .problem .notBool

def checkIntOrNull : Value → Checked (Option Int)
  | .null => .sound none
  | value => some <$> value.checkInt

def checkInts : Value → Checked (List Int)
  | .list items => Checked.items checkInt 0 items
  | _ => .problem .notList

def checkIntPair : Value → Checked (Int × Int)
  | .list [] => Prod.mk <$> absent 0 <*> absent 1
  | .list [first] => Prod.mk <$> (first.checkInt).within (.item 0) <*> absent 1
  | .list [first, second] =>
    Prod.mk <$> (first.checkInt).within (.item 0) <*> (second.checkInt).within (.item 1)
  | .list items => .problem (.tooManyItems items.length)
  | _ => .problem .notPair
where
  absent (index : Nat) : Checked Int := (Checked.problem .missing).within (.item index)

def checkTable {α : Type} (className : String) (check : Entries → Checked α) : Value → Checked α
  | .table entries => check entries
  | _ => .problem (.notTable className)

end Value

namespace Entries

variable {α : Type}

def required (entries : Entries) (name : String) (check : Value → Checked α) : Checked α :=
  (match entries.lookup name with
    | some value => check value
    | none => .problem .missing).within (.field name)

def optional (entries : Entries) (name : String) (default : α) (check : Value → Checked α) :
    Checked α :=
  match entries.lookup name with
  | some value => (check value).within (.field name)
  | none => .sound default

/-- Gives a field another value, as it is; there has to be such a field. -/
def assign? (entries : Entries) (name : String) (value : Value) : Option Entries :=
  if (entries.lookup name).isSome then some (entries.set name value) else none

end Entries

end HeapProbe
