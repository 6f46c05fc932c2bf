import HeapProbe.Text.Blank
import HeapProbe.Text.Width

/-! # Wrapping lines

A text is sent to a screen line by line, with spaces for its tabs and without some of its controls.
A line that is too long for the screen is broken between words; a word that is longer than the width
is cut into pieces. Nothing else is lost, but for blanks at the end of a line that is too long.
-/

namespace HeapProbe

def splitLines : List Char → List (List Char)
  | [] => [[]]
  | '\n' :: rest => [] :: splitLines rest
  | c :: rest =>
    match splitLines rest with
    | [] => [[c]]
    | line :: lines => (c :: line) :: lines

/-- Cuts a line in front of every word but the first, so that blanks stay with the word before. -/
def words : List Char → List (List Char)
  | [] => []
  | c :: rest =>
    match words rest with
    | [] => [[c]]
    | word :: later =>
      let blanks := word.takeWhile isWordBreak
      let core := word.dropWhile isWordBreak
      if isWordBreak c || blanks.isEmpty || core.isEmpty then (c :: word) :: later
      else (c :: blanks) :: core :: later

theorem flatten_words (line : List Char) : (words line).flatten = line := by
  induction line with
  | nil => rfl
  | cons c rest ih =>
    rw [words]
    split
    · next h =>
      rw [h] at ih
      simpa using ih
    · next word later h =>
      rw [h] at ih
      simp only
      split
      · simpa using ih
      · rw [List.flatten_cons, List.flatten_cons, List.cons_append, ← List.append_assoc,
          List.takeWhile_append_dropWhile]
        simpa using ih

/-- Puts clusters on lines that fit the width, each as long as possible; `line` is the one being
filled and takes `used` columns. -/
def fillLines (width : Nat) (line : List Char) (used : Nat) : List Cluster → List (List Char)
  | [] => [line]
  | cluster :: later =>
    if used + cluster.width ≤ width then
      fillLines width (line ++ cluster.chars) (used + cluster.width) later
    else line :: fillLines width cluster.chars cluster.width later

theorem flatten_fillLines (width : Nat) (line : List Char) (used : Nat) (later : List Cluster) :
    (fillLines width line used later).flatten = line ++ (later.map Cluster.chars).flatten := by
  induction later generalizing line used with
  | nil => simp [fillLines]
  | cons cluster later ih =>
    rw [fillLines]
    split <;> simp [ih]

theorem fillLines_ne_nil (width : Nat) (line : List Char) (used : Nat) (later : List Cluster) :
    fillLines width line used later ≠ [] := by
  induction later generalizing line used with
  | nil => simp [fillLines]
  | cons cluster later ih =>
    rw [fillLines]
    split
    · exact ih _ _
    · simp

def pieces (width : Nat) (word : List Char) : List (List Char) :=
  if width < textWidth (trimEnd isWordBreak word) then fillLines width [] 0 (clusters word)
  else [word]

theorem pieces_ne_nil (width : Nat) (word : List Char) : pieces width word ≠ [] := by
  rw [pieces]
  split
  · exact fillLines_ne_nil width [] 0 (clusters word)
  · simp

theorem flatten_pieces (width : Nat) (word : List Char) : (pieces width word).flatten = word := by
  rw [pieces]
  split
  · rw [flatten_fillLines, flatten_clusters, List.nil_append]
  · simp

/-- Places words on lines; `line` is the one being filled and takes `used` columns. A word that is
cut starts on a line of its own. -/
def placeWords (width : Nat) (line : List Char) (used : Nat) : List (List Char) → List (List Char)
  | [] => [line]
  | word :: later =>
    if used + textWidth (trimEnd isWordBreak word) ≤ width then
      placeWords width (line ++ word) (used + textWidth word) later
    else
      let cut := pieces width word
      let full := if line.isEmpty then cut.dropLast else line :: cut.dropLast
      let last := cut.getLast (pieces_ne_nil width word)
      full ++ placeWords width last (textWidth last) later

theorem flatten_placeWords (width : Nat) (line : List Char) (used : Nat)
    (later : List (List Char)) :
    (placeWords width line used later).flatten = line ++ later.flatten := by
  induction later generalizing line used with
  | nil => simp [placeWords]
  | cons word later ih =>
    rw [placeWords]
    split
    · simp [ih]
    · have h : (pieces width word).dropLast.flatten ++
          (pieces width word).getLast (pieces_ne_nil width word) = word := by
        conv => rhs; rw [← flatten_pieces width word,
          ← List.dropLast_concat_getLast (pieces_ne_nil width word)]
        simp
      rw [List.flatten_append, ih, ← List.append_assoc, List.flatten_cons, ← List.append_assoc]
      congr 1
      by_cases hl : line.isEmpty
      · simp_all
      · rw [if_neg hl, List.flatten_cons, List.append_assoc, h]

def wrap (width : Nat) (line : List Char) : List (List Char) := placeWords width [] 0 (words line)

/-- Breaking a line loses nothing of it. -/
theorem flatten_wrap (width : Nat) (line : List Char) : (wrap width line).flatten = line := by
  rw [wrap, flatten_placeWords, flatten_words, List.nil_append]

/-- Drops blanks from the end of a line that has more characters than the width. -/
def trimExcess (width : Nat) (line : List Char) : List Char :=
  line.take (max width (trimEnd isWordBreak line).length)

def tabSize : Nat := 8

/-- Replaces each tab by a space and as many more as lead to a tab stop; `part`, last character
first, is what comes before the next tab, from the column on. -/
def expandTabs (column : Nat) (part : List Char) : List Char → List Char
  | [] => part.reverse
  | c :: rest =>
    if c = '\t' then
      let shown := (' ' :: part).reverse
      let reached := column + textWidth shown
      let gap := (tabSize - reached % tabSize) % tabSize
      shown ++ List.replicate gap ' ' ++ expandTabs (reached + gap) [] rest
    else expandTabs column (c :: part) rest

/-- The controls that are not sent to a screen: bell, backspace, vertical tab, form feed and
carriage return. -/
def unsentControls : CharRanges := [(0x7, 0x8), (0xb, 0xd)]

/-- Drops the backslash in front of an opening bracket; it only says that the bracket is text. -/
def dropEscapes : List Char → List Char
  | [] => []
  | '\\' :: '[' :: rest => '[' :: dropEscapes rest
  | c :: rest => c :: dropEscapes rest

def sentText (text : String) : List Char :=
  (dropEscapes text.toList).filter fun c => !unsentControls.contains c

def screenLines (width : Nat) (text : String) : List (List Char) :=
  (splitLines (sentText text)).flatMap fun line =>
    (wrap width (expandTabs 0 [] line)).map (trimExcess width)

def ofLines (lines : List (List Char)) : String := String.ofList (lines.flatMap (· ++ ['\n']))

/-! ## What stays of a text -/

def seen (cs : List Char) : List Char := cs.filter fun c => !isWordBreak c

@[simp] theorem seen_append (cs cs' : List Char) : seen (cs ++ cs') = seen cs ++ seen cs' :=
  List.filter_append ..

theorem seen_cons (c : Char) (cs : List Char) : seen (c :: cs) = seen [c] ++ seen cs :=
  seen_append [c] cs

theorem seen_of_blanks {cs : List Char} (h : ∀ c ∈ cs, isWordBreak c) : seen cs = [] :=
  List.filter_eq_nil_iff.2 fun c hc => by simp [h c hc]

theorem seen_flatten (lines : List (List Char)) : seen lines.flatten = (lines.map seen).flatten :=
  List.filter_flatten ..

theorem seen_trimExcess (width : Nat) (line : List Char) :
    seen (trimExcess width line) = seen line := by
  obtain ⟨blanks, hline, hblank⟩ := exists_trimEnd_append isWordBreak line
  let kept := max width (trimEnd isWordBreak line).length
  have hcut : seen (line.drop kept) = [] := by
    apply seen_of_blanks
    intro c hc
    rw [hline, List.drop_append, List.drop_eq_nil_of_le (Nat.le_max_right ..)] at hc
    exact hblank c (List.mem_of_mem_drop hc)
  have hsplit := seen_append (line.take kept) (line.drop kept)
  rw [hcut, List.append_nil, List.take_append_drop] at hsplit
  exact hsplit.symm

theorem seen_expandTabs (column : Nat) (part cs : List Char) :
    seen (expandTabs column part cs) = seen part.reverse ++ seen cs := by
  induction cs generalizing column part with
  | nil => simp [expandTabs, seen]
  | cons c rest ih =>
    rw [expandTabs, seen_cons]
    split
    · next htab =>
      have hgap (gap : Nat) : seen (List.replicate gap ' ') = [] := seen_of_blanks fun c hc => by
        rw [List.eq_of_mem_replicate hc]
        decide
      have hspace : seen [' '] = [] := by decide
      have htabbed : seen [c] = [] := by rw [htab]; decide
      dsimp only
      rw [seen_append, seen_append, ih, hgap, List.reverse_cons, seen_append, hspace, htabbed]
      simp [seen]
    · rw [ih, List.reverse_cons, seen_append, List.append_assoc]

theorem seen_splitLines (cs : List Char) : seen (splitLines cs).flatten = seen cs := by
  fun_induction splitLines cs with
  | case1 => rfl
  | case2 rest ih =>
    have hnewline : seen ['\n'] = [] := by decide
    rw [List.flatten_cons, List.nil_append, ih, seen_cons, hnewline, List.nil_append]
  | case3 c rest _ h ih =>
    rw [h] at ih
    rw [seen_cons c rest, ← ih]
    simp [seen]
  | case4 c rest _ line lines h ih =>
    rw [h] at ih
    rw [seen_cons c rest, ← ih, List.flatten_cons, List.cons_append, seen_cons, List.flatten_cons]

/-- On its lines a text shows all that is sent of it, in order, but for blanks. -/
theorem seen_screenLines (width : Nat) (text : String) :
    seen (screenLines width text).flatten = seen (sentText text) := by
  have hline (line : List Char) :
      seen ((wrap width (expandTabs 0 [] line)).map (trimExcess width)).flatten = seen line := by
    have htrim : seen ∘ trimExcess width = seen := funext (seen_trimExcess width)
    rw [seen_flatten, List.map_map, htrim, ← seen_flatten, flatten_wrap, seen_expandTabs]
    rfl
  rw [screenLines, ← seen_splitLines (sentText text)]
  induction splitLines (sentText text) with
  | nil => rfl
  | cons line lines ih =>
    rw [List.flatMap_cons, List.flatten_append, seen_append, hline, ih, List.flatten_cons,
      seen_append]

theorem seen_ofLines (lines : List (List Char)) :
    seen (ofLines lines).toList = seen lines.flatten := by
  rw [ofLines, String.toList_ofList]
  induction lines with
  | nil => rfl
  | cons line lines ih =>
    have hnewline : seen ['\n'] = [] := by decide
    rw [List.flatMap_cons, seen_append, seen_append, hnewline, ih, List.append_nil,
      List.flatten_cons, seen_append]

end HeapProbe
