/-! # Scanning TOML

The tokens of a TOML document: blanks, comments, keys and strings. A scanner takes a token off the
front of the text and gives the rest back.
-/

namespace HeapProbe.Toml

inductive Flaw where
  | malformed
  /-- A decimal integer has more digits than are converted. -/
  | tooManyDigits
  | tooDeep
  deriving DecidableEq

abbrev Scanner (α : Type) := List Char → Except Flaw (α × List Char)

def isBlank (c : Char) : Bool := c = ' ' || c = '\t'

def isControl (c : Char) : Bool := c.toNat < 0x20 || c.toNat = 0x7f

/-- A control character that a comment or one line of a string cannot hold. -/
def isIllegal (c : Char) : Bool := isControl c && c != '\t'

/-- A control character that a string of several lines cannot hold. -/
def isIllegalAcrossLines (c : Char) : Bool := isIllegal c && c != '\n'

def expect? (c : Char) : List Char → Option (List Char)
  | d :: rest => if c = d then some rest else none
  | [] => none

def word? : List Char → List Char → Option (List Char)
  | [], cs => some cs
  | c :: word, cs => (expect? c cs).bind (word? word)

def skipBlanks (cs : List Char) : List Char := cs.dropWhile isBlank

def skipComment : List Char → Except Flaw (List Char)
  | '#' :: cs =>
    if (cs.takeWhile (· ≠ '\n')).any isIllegal then .error .malformed
    else .ok (cs.dropWhile (· ≠ '\n'))
  | cs => .ok cs

def skipVoid (cs : List Char) : Except Flaw (List Char) :=
  match cs with
  | [] => .ok []
  | c :: rest =>
    if isBlank c || c = '\n' then skipVoid rest
    else if c = '#' then
      if (rest.takeWhile (· ≠ '\n')).any isIllegal then .error .malformed
      else skipVoid (rest.dropWhile (· ≠ '\n'))
    else .ok cs
termination_by cs.length
decreasing_by
  · simp
  · have := (List.dropWhile_suffix (fun c => decide (c ≠ '\n')) (l := rest)).length_le
    simp only [List.length_cons]
    omega

def hexValue? (cs : List Char) : Option Nat :=
  cs.foldlM (fun n c => (digit? c).map (n * 16 + ·)) 0
where
  digit? (c : Char) : Option Nat :=
    if '0' ≤ c ∧ c ≤ '9' then some (c.toNat - '0'.toNat)
    else if 'a' ≤ c ∧ c ≤ 'f' then some (c.toNat - 'a'.toNat + 10)
    else if 'A' ≤ c ∧ c ≤ 'F' then some (c.toNat - 'A'.toNat + 10)
    else none

/-- The character with a code point written in `width` hexadecimal digits. -/
def codePoint (width : Nat) : Scanner (List Char) := fun cs =>
  if cs.length < width then .error .malformed
  else
    match hexValue? (cs.take width) with
    | none => .error .malformed
    | some n =>
      if n.isValidChar then .ok ([Char.ofNat n], cs.drop width) else .error .malformed

/-- What the characters after a backslash stand for. In a string of several lines a backslash at the
end of a line drops the line end and the blanks after it. -/
def escape (acrossLines : Bool) : Scanner (List Char)
  | 'b' :: cs => .ok (['\x08'], cs)
  | 't' :: cs => .ok (['\t'], cs)
  | 'n' :: cs => .ok (['\n'], cs)
  | 'f' :: cs => .ok (['\x0c'], cs)
  | 'r' :: cs => .ok (['\r'], cs)
  | '"' :: cs => .ok (['"'], cs)
  | '\\' :: cs => .ok (['\\'], cs)
  | 'u' :: cs => codePoint 4 cs
  | 'U' :: cs => codePoint 8 cs
  | cs =>
    if acrossLines && cs.head?.any fun c => isBlank c || c = '\n' then
      match skipBlanks cs with
      | [] => .ok ([], [])
      | '\n' :: rest => .ok ([], rest.dropWhile fun c => isBlank c || c = '\n')
      | _ => .error .malformed
    else .error .malformed

/-- A string up to its closing quotes: one, or three if it goes across lines. -/
def basicString (acrossLines : Bool) (cs : List Char) : Except Flaw (List Char × List Char) :=
  match cs with
  | [] => .error .malformed
  | '"' :: rest =>
    if acrossLines then
      match word? ['"', '"'] rest with
      | some later => .ok ([], later)
      | none => do
        let (text, later) ← basicString acrossLines rest
        return ('"' :: text, later)
    else .ok ([], rest)
  | '\\' :: rest => do
    let (text, later) ← escape acrossLines rest
    if _h : later.length ≤ rest.length then
      let (more, later) ← basicString acrossLines later
      return (text ++ more, later)
    else .error .malformed
  | c :: rest =>
    if (if acrossLines then isIllegalAcrossLines c else isIllegal c) then .error .malformed
    else do
      let (text, later) ← basicString acrossLines rest
      return (c :: text, later)
termination_by cs.length

/-- A string without escapes on one line, up to its closing quote. -/
def literalString : Scanner (List Char) := fun cs =>
  match cs.span (· ≠ '\'') with
  | (text, '\'' :: rest) => if text.any isIllegal then .error .malformed else .ok (text, rest)
  | _ => .error .malformed

def literalStringAcrossLines : Scanner (List Char)
  | [] => .error .malformed
  | '\'' :: '\'' :: '\'' :: rest => .ok ([], rest)
  | c :: rest =>
    if isIllegalAcrossLines c then .error .malformed
    else do
      let (text, rest) ← literalStringAcrossLines rest
      return (c :: text, rest)

/-- Up to two more quotes belong to a string that three quotes have closed. -/
def extraQuotes (quote : Char) (text : List Char) : List Char → List Char × List Char
  | c :: d :: rest =>
    if c = quote then
      if d = quote then (text ++ [quote, quote], rest) else (text ++ [quote], d :: rest)
    else (text, c :: d :: rest)
  | [c] => if c = quote then (text ++ [quote], []) else (text, [c])
  | [] => (text, [])

def dropLineEnd : List Char → List Char
  | '\n' :: rest => rest
  | cs => cs

def string? (cs : List Char) : Option (Except Flaw (List Char × List Char)) :=
  match cs with
  | '"' :: '"' :: '"' :: rest => some do
    let (text, rest) ← basicString true (dropLineEnd rest)
    return extraQuotes '"' text rest
  | '\'' :: '\'' :: '\'' :: rest => some do
    let (text, rest) ← literalStringAcrossLines (dropLineEnd rest)
    return extraQuotes '\'' text rest
  | '"' :: rest => some (basicString false rest)
  | '\'' :: rest => some (literalString rest)
  | _ => none

def isBareKeyChar (c : Char) : Bool := c.isAlphanum || c = '-' || c = '_'

/-- One part of a key, bare or quoted on one line. -/
def keyPart : Scanner String
  | '"' :: rest => do
    let (text, rest) ← basicString false rest
    return (String.ofList text, rest)
  | '\'' :: rest => do
    let (text, rest) ← literalString rest
    return (String.ofList text, rest)
  | cs =>
    match cs.span isBareKeyChar with
    | ([], _) => .error .malformed
    | (part, rest) => .ok (String.ofList part, rest)

def key (cs : List Char) : Except Flaw (List String × List Char) := do
  let (part, rest) ← keyPart cs
  match skipBlanks rest with
  | '.' :: rest =>
    let rest := skipBlanks rest
    if _h : rest.length < cs.length then
      let (parts, rest) ← key rest
      return (part :: parts, rest)
    else .error .malformed
  | rest => return ([part], rest)
termination_by cs.length

end HeapProbe.Toml
