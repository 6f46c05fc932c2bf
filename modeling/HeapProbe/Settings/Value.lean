import HeapProbe.Settings.Binary64

/-! # Values

Settings are read from values: what a settings file holds before it is known to make sense.
-/

namespace HeapProbe

inductive Value where
  | null
  | bool (value : Bool)
  | int (value : Int)
  | float (value : Binary64)
  | text (value : String)
  | moment
  | list (items : List Value)
  | table (entries : List (String × Value))

/-- Entries under distinct keys, in the order in which they were made. -/
abbrev Entries := List (String × Value)

namespace Entries

/-- Gives a key a value, in the place it has or at the end. -/
def set (entries : Entries) (key : String) (value : Value) : Entries :=
  if entries.any fun entry => entry.1 = key then
    entries.map fun entry => if entry.1 = key then (key, value) else entry
  else entries ++ [(key, value)]

end Entries

end HeapProbe
