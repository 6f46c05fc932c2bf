/-! # Given values

A caller may give a value or give none. On a command line two dashes in the place of a value leave
it blank: something was given, but nothing that can be used.
-/

namespace HeapProbe

inductive Given (α : Type) where
  | nothing
  | blank
  | value (value : α)
  deriving DecidableEq

namespace Given

variable {α : Type}

def value? : Given α → Option α
  | .value a => some a
  | .nothing | .blank => none

def ofOption : Option α → Given α
  | some a => .value a
  | none => .nothing

@[simp]
theorem value?_ofOption (a : Option α) : (ofOption a).value? = a := by
  cases a <;> rfl

end Given

end HeapProbe
