import HeapProbe.Text.Wrap

/-! # Grids

A grid is text laid out in columns between rules, under a title and over a caption that are centred
on its width. A column is as wide as its longest text and one blank on either side; where a text
does not fill its column, the blanks go to the side away from which it is justified.
-/

namespace HeapProbe

inductive Justify where
  | left
  | right
  deriving DecidableEq

def Justify.name : Justify → String
  | .left => "left"
  | .right => "right"

def Justify.pad (justify : Justify) (width : Nat) (cs : List Char) : List Char :=
  let blanks := List.replicate (width - textWidth cs) ' '
  match justify with
  | .left => cs ++ blanks
  | .right => blanks ++ cs

structure GridColumn where
  header : String
  justify : Justify := .left
  deriving DecidableEq

structure Grid where
  title : String
  caption : String
  columns : List GridColumn
  rows : List (List String)

structure Rule where
  left : Char
  line : Char
  cross : Char
  right : Char

namespace Grid

def joinCells (left cross right : Char) (cells : List (List Char)) : List Char :=
  left :: [cross].intercalate cells ++ [right]

def rule (r : Rule) (widths : List Nat) : List Char :=
  joinCells r.left r.cross r.right (widths.map fun width => List.replicate (width + 2) r.line)

def row (edge : Char) (columns : List GridColumn) (widths : List Nat) (cells : List String) :
    List Char :=
  joinCells edge edge edge <|
    ((columns.zip widths).zip cells).map fun ((column, width), cell) =>
      ' ' :: column.justify.pad width cell.toList ++ [' ']

/-- Centres a text, wrapped if it is too long; of an odd blank the right side has the greater
part. -/
def centred (width : Nat) (text : String) : List (List Char) :=
  (screenLines width text).map fun line =>
    let line := trimEnd isWordBreak line
    let left := List.replicate ((width - textWidth line) / 2) ' '
    Justify.left.pad width (left ++ line)

def widths (grid : Grid) : List Nat :=
  (grid.columns.map fun column => textWidth column.header.toList).mapIdx fun i header =>
    grid.rows.foldl (fun width cells =>
      max width ((cells[i]?.map fun cell => textWidth cell.toList).getD 0)) header

def lines (grid : Grid) : List (List Char) :=
  let widths := grid.widths
  let top := rule ⟨'┏', '━', '┳', '┓'⟩ widths
  centred top.length grid.title ++
    [top,
      row '┃' grid.columns widths (grid.columns.map GridColumn.header),
      rule ⟨'┡', '━', '╇', '┩'⟩ widths] ++
    grid.rows.map (row '│' grid.columns widths) ++
    [rule ⟨'└', '─', '┴', '┘'⟩ widths] ++
    centred top.length grid.caption

def text (grid : Grid) : String := ofLines grid.lines

end Grid

end HeapProbe
