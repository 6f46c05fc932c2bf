import HeapProbe.Settings.Value
import HeapProbe.Text.Integer
import HeapProbe.Toml.Scan

/-! # Scalars of TOML

Numbers, truth values, dates and times. The longest text that has one of these forms is taken, dates
before times and times before numbers; what follows it is for others to judge.
-/

namespace HeapProbe.Toml

/-- Digits after the first, with single underscores between digits. -/
def moreDigits (isDigit : Char → Bool) : List Char → List Char × List Char
  | [] => ([], [])
  | '_' :: c :: rest =>
    if isDigit c then
      let (digits, rest) := moreDigits isDigit rest
      (c :: digits, rest)
    else ([], '_' :: c :: rest)
  | c :: rest =>
    if isDigit c then
      let (digits, rest) := moreDigits isDigit rest
      (c :: digits, rest)
    else ([], c :: rest)

def digits? (isDigit : Char → Bool) : List Char → Option (List Char × List Char)
  | c :: rest =>
    if isDigit c then
      let (digits, rest) := moreDigits isDigit rest
      some (c :: digits, rest)
    else none
  | [] => none

def isDigitOf (base : Nat) (c : Char) : Bool := (asciiDigit? c).any (· < base)

def natOf (base : Nat) (digits : List Char) : Nat :=
  ofDigitValues base (digits.filterMap asciiDigit?)

def markedInteger? : List Char → Option (Nat × List Char)
  | '0' :: 'x' :: rest => (digits? (isDigitOf 16) rest).map fun (ds, rest) => (natOf 16 ds, rest)
  | '0' :: 'o' :: rest => (digits? (isDigitOf 8) rest).map fun (ds, rest) => (natOf 8 ds, rest)
  | '0' :: 'b' :: rest => (digits? (isDigitOf 2) rest).map fun (ds, rest) => (natOf 2 ds, rest)
  | _ => none

/-- The whole part of a decimal number, without leading zeros. -/
def wholePart? : List Char → Option (List Char × List Char)
  | '0' :: rest => some (['0'], rest)
  | cs => digits? (isDigitOf 10) cs

def fraction? : List Char → Option (List Char × List Char)
  | '.' :: rest => digits? (isDigitOf 10) rest
  | _ => none

def exponent? : List Char → Option (Int × List Char)
  | c :: rest =>
    if c = 'e' ∨ c = 'E' then
      let (negative, rest) := takeSign rest
      (digits? (isDigitOf 10) rest).map fun (ds, rest) => (signed negative (natOf 10 ds), rest)
    else none
  | [] => none

def decimalNumber? (cs : List Char) : Option (Except Flaw (Value × List Char)) := do
  let (negative, rest) := takeSign cs
  let (whole, rest) ← wholePart? rest
  let afterFraction := fraction? rest
  let (fraction, rest) := afterFraction.getD ([], rest)
  let afterExponent := exponent? rest
  let (exponent, rest) := afterExponent.getD (0, rest)
  if afterFraction.isNone ∧ afterExponent.isNone then
    if maxDecimalDigits < whole.length then some (.error .tooManyDigits)
    else some (.ok (.int (signed negative (natOf 10 whole)), rest))
  else
    let float := Binary64.ofDecimal negative (natOf 10 (whole ++ fraction))
      (exponent - fraction.length)
    some (.ok (.float float, rest))

def twoDigits? (least greatest : Nat) : List Char → Option (Nat × List Char)
  | c :: d :: rest =>
    let n := natOf 10 [c, d]
    if isDigitOf 10 c && isDigitOf 10 d && decide (least ≤ n ∧ n ≤ greatest) then some (n, rest)
    else none
  | _ => none

def time? (cs : List Char) : Option (List Char) := do
  let (_, rest) ← twoDigits? 0 23 cs
  let (_, rest) ← twoDigits? 0 59 (← expect? ':' rest)
  let (_, rest) ← twoDigits? 0 59 (← expect? ':' rest)
  match rest with
  | '.' :: c :: later =>
    if isDigitOf 10 c then some (later.dropWhile (isDigitOf 10)) else some rest
  | _ => some rest

def skipOffset (cs : List Char) : List Char :=
  match cs with
  | 'Z' :: rest | 'z' :: rest => rest
  | '+' :: rest | '-' :: rest => (offset? rest).getD cs
  | _ => cs
where
  offset? (cs : List Char) : Option (List Char) := do
    let (_, rest) ← twoDigits? 0 23 cs
    let (_, rest) ← twoDigits? 0 59 (← expect? ':' rest)
    return rest

def isLeapYear (year : Nat) : Bool := year % 4 = 0 && (year % 100 ≠ 0 || year % 400 = 0)

def daysInMonth (year month : Nat) : Nat :=
  if month = 2 then (if isLeapYear year then 29 else 28)
  else if month ∈ [4, 6, 9, 11] then 30
  else 31

/-- A date, whether it is on the calendar, and the rest. -/
def date? (cs : List Char) : Option (Bool × List Char) := do
  let (century, rest) ← twoDigits? 0 99 cs
  let (yearOfCentury, rest) ← twoDigits? 0 99 rest
  let (month, rest) ← twoDigits? 1 12 (← expect? '-' rest)
  let (day, rest) ← twoDigits? 1 31 (← expect? '-' rest)
  let year := century * 100 + yearOfCentury
  return (0 < year && day ≤ daysInMonth year month, rest)

def dateTime? (cs : List Char) : Option (Except Flaw (Value × List Char)) := do
  let (onCalendar, rest) ← date? cs
  let rest := match rest with
    | c :: later =>
      if c = 'T' ∨ c = 't' ∨ c = ' ' then ((time? later).map skipOffset).getD rest else rest
    | [] => rest
  return if onCalendar then .ok (.moment, rest) else .error .malformed

def words : List (String × Value) :=
  [("true", .bool true), ("false", .bool false), ("inf", .float (.infinite false)),
    ("+inf", .float (.infinite false)), ("-inf", .float (.infinite true)), ("nan", .float .nan),
    ("+nan", .float .nan), ("-nan", .float .nan)]

def scalar (cs : List Char) : Except Flaw (Value × List Char) :=
  match string? cs with
  | some scanned => scanned.map fun (text, rest) => (.text (String.ofList text), rest)
  | none =>
    match dateTime? cs with
    | some scanned => scanned
    | none =>
      match time? cs with
      | some rest => .ok (.moment, rest)
      | none =>
        match markedInteger? cs with
        | some (n, rest) => .ok (.int n, rest)
        | none =>
          match decimalNumber? cs with
          | some scanned => scanned
          | none =>
            match words.findSome? fun (word, value) => (word? word.toList cs).map (value, ·) with
            | some scanned => .ok scanned
            | none => .error .malformed

end HeapProbe.Toml
