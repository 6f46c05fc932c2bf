import HeapProbe.Text.Blank
import HeapProbe.Text.Digit
import HeapProbe.Text.Numeral

/-! # Reading integers

Three grammars read integers. All of them allow a sign in front and a single underscore between two
digits. A count on the command line is decimal and may use the digits of any script; an address may
instead give its base by `0x`, `0o` or `0b`, and a decimal one has no leading zeros. A settings
value is decimal in ASCII digits, may end in a fraction of zeros, and has its sign in front of or
behind its leading zeros. White space around the text is ignored.
-/

namespace HeapProbe

/-- The values of digits in a base that may be parted by single underscores. -/
def digitValues? (base : Nat) : List Char → Option (List Nat)
  | [] => none
  | [c] => do
    let digit ← asciiDigit? c
    if digit < base then some [digit] else none
  | c :: '_' :: rest => do
    let digit ← asciiDigit? c
    if digit < base then return digit :: (← digitValues? base rest) else none
  | c :: rest => do
    let digit ← asciiDigit? c
    if digit < base then return digit :: (← digitValues? base rest) else none

def ofDigitValues (base : Nat) (digits : List Nat) : Nat :=
  digits.foldl (fun n digit => n * base + digit) 0

def takeSign : List Char → Bool × List Char
  | '-' :: rest => (true, rest)
  | '+' :: rest => (false, rest)
  | cs => (false, cs)

def signed (negative : Bool) (n : Nat) : Int := if negative then -n else n

/-- Reads digits of all scripts as ASCII ones, and all white space as spaces. -/
def plainDigits (cs : List Char) : List Char :=
  cs.map fun c =>
    match decimalDigit? c with
    | some digit => Nat.digitChar digit
    | none => if isWhiteSpace c then ' ' else c

def decimalNat? (cs : List Char) : Option Nat := do
  let digits ← digitValues? 10 cs
  if digits.length ≤ maxDecimalDigits then some (ofDigitValues 10 digits) else none

def readCount? (text : String) : Option Int := do
  let (negative, cs) := takeSign (trim isWhiteSpace (plainDigits text.toList))
  return signed negative (← decimalNat? cs)

/-- Digits after a base mark, from which one underscore may part them. -/
def markedNat? (base : Nat) : List Char → Option Nat
  | '_' :: rest => (digitValues? base rest).map (ofDigitValues base)
  | cs => (digitValues? base cs).map (ofDigitValues base)

def addressNat? : List Char → Option Nat
  | '0' :: 'x' :: rest | '0' :: 'X' :: rest => markedNat? 16 rest
  | '0' :: 'o' :: rest | '0' :: 'O' :: rest => markedNat? 8 rest
  | '0' :: 'b' :: rest | '0' :: 'B' :: rest => markedNat? 2 rest
  | '0' :: rest => do
    let n ← decimalNat? ('0' :: rest)
    if n = 0 then some n else none
  | cs => decimalNat? cs

def readAddress? (text : String) : Option Int := do
  let (negative, cs) := takeSign (trim isWhiteSpace (plainDigits text.toList))
  return signed negative (← addressNat? cs)

/-- A whole number written in ASCII digits without a leading zero. -/
def plainNat? : List Char → Option Nat
  | ['0'] => some 0
  | '0' :: _ | [] => none
  | cs => if cs.all Char.isDigit then (digitValues? 10 cs).map (ofDigitValues 10) else none

def plainInt? : List Char → Option Int
  | '-' :: cs => (plainNat? cs).map fun n => -n
  | cs => (plainNat? cs).map Int.ofNat

/-- Whether a number without a leading zero starts the text and has more digits than are converted.
-/
def isOversized (cs : List Char) : Bool :=
  let unsigned := match cs with
    | '-' :: rest => rest
    | _ => cs
  unsigned.head? ≠ some '0' && maxDecimalDigits < (unsigned.takeWhile Char.isDigit).length

/-- Whether a number may start with the character once its leading zeros are dropped. -/
def startsNumber (c : Char) : Bool := c = '-' || c.isDigit && c ≠ '0'

/-- Drops zeros, and underscores between them, of which `last` is the one before. A zero that is the
whole number stays, whether it is the end of the text or followed by a fraction. -/
def dropZeros? (last : Char) : List Char → Option (List Char)
  | [] => some [last]
  | c :: rest =>
    if c = '.' then some (last :: c :: rest)
    else if c = '0' || c = '_' then dropZeros? c rest
    else if startsNumber c then some (c :: rest)
    else none

def dropLeadingZeros? : List Char → Option (List Char)
  | [] => none
  | c :: rest =>
    if c = '0' then dropZeros? c rest else if startsNumber c then some (c :: rest) else none

def dropZeroFraction (cs : List Char) : List Char :=
  match cs.span (· ≠ '.') with
  | (whole, '.' :: '0' :: rest) => if rest.all (· = '0') then whole else cs
  | _ => cs

/-- Whether every underscore stands alone between two other characters. -/
def partsDigits : List Char → Bool
  | [] => true
  | ['_'] => false
  | '_' :: '_' :: _ => false
  | _ :: rest => partsDigits rest

def joinDigits? (cs : List Char) : Option (List Char) :=
  if cs.head? ≠ some '_' && partsDigits cs then some (cs.filter (· ≠ '_')) else none

/-- A settings value without what may be left out of it: white space around it, a plus sign, leading
zeros, a fraction of zeros and underscores. -/
def tidySetting? (cs : List Char) : Option (List Char) := do
  let cs ←
    match trim isWhiteSpace cs with
    | '+' :: '-' :: _ => none
    | '+' :: rest => dropLeadingZeros? rest
    | '-' :: rest => (dropLeadingZeros? rest).map ('-' :: ·)
    | rest => dropLeadingZeros? rest
  joinDigits? (dropZeroFraction cs)

inductive SettingFault where
  | oversized
  | unreadable
  deriving DecidableEq

def readSetting (text : String) : Except SettingFault Int :=
  let cs := text.toList
  if isOversized cs then .error .oversized
  else
    match tidySetting? cs with
    | none => .error .unreadable
    | some tidy =>
      match if isOversized tidy then none else plainInt? tidy with
      | none => .error .unreadable
      | some n => .ok n

end HeapProbe
