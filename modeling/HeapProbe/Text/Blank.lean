import HeapProbe.Text.Ranges

/-! # Blanks

White space is what Unicode calls by that name. Where text is broken into words, the four
information separators count as spaces as well.
-/

namespace HeapProbe

/-- Characters with the property White_Space. -/
def whiteSpace : CharRanges :=
  [(0x9, 0xd), (0x20, 0x20), (0x85, 0x85), (0xa0, 0xa0), (0x1680, 0x1680), (0x2000, 0x200a),
    (0x2028, 0x2029), (0x202f, 0x202f), (0x205f, 0x205f), (0x3000, 0x3000)]

/-- The information separators U+001C to U+001F. -/
def informationSeparators : CharRanges := [(0x1c, 0x1f)]

def isWhiteSpace (c : Char) : Bool := whiteSpace.contains c

def isWordBreak (c : Char) : Bool := whiteSpace.contains c || informationSeparators.contains c

def trimEnd (blank : Char → Bool) (cs : List Char) : List Char :=
  (cs.reverse.dropWhile blank).reverse

def trim (blank : Char → Bool) (cs : List Char) : List Char := trimEnd blank (cs.dropWhile blank)

theorem exists_trimEnd_append (blank : Char → Bool) (cs : List Char) :
    ∃ rest, cs = trimEnd blank cs ++ rest ∧ ∀ c ∈ rest, blank c := by
  refine ⟨(cs.reverse.takeWhile blank).reverse, ?_, fun c hc => ?_⟩
  · rw [trimEnd, ← List.reverse_append, List.takeWhile_append_dropWhile, List.reverse_reverse]
  · exact List.all_eq_true.1 List.all_takeWhile c (List.mem_reverse.1 hc)

end HeapProbe
