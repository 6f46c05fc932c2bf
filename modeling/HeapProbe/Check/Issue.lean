import HeapProbe.Text.Numeral

/-! # Issues

An issue says what is wrong with a value and where it stands, as a path of field names and list
indices. A check collects the issues of all its parts, in order, instead of stopping at the first.
-/

namespace HeapProbe

inductive PathStep where
  | field (name : String)
  | item (index : Nat)
  deriving DecidableEq

inductive Problem where
  | missing
  | notText
  | notInt
  | unreadableInt
  | fractionalInt
  | unboundedInt
  | oversizedInt
  | notBool
  | unreadableBool
  | notList
  | notTable (className : String)
  | notPair
  | tooManyItems (count : Nat)
  | rejected (reason : String)
  | frozen
  deriving DecidableEq

namespace Problem

def kind : Problem → String
  | .missing => "missing"
  | .notText => "string_type"
  | .notInt => "int_type"
  | .unreadableInt => "int_parsing"
  | .fractionalInt => "int_from_float"
  | .unboundedInt => "finite_number"
  | .oversizedInt => "int_parsing_size"
  | .notBool => "bool_type"
  | .unreadableBool => "bool_parsing"
  | .notList => "list_type"
  | .notTable _ => "model_type"
  | .notPair => "tuple_type"
  | .tooManyItems _ => "too_long"
  | .rejected _ => "value_error"
  | .frozen => "frozen_instance"

def message : Problem → String
  | .missing => "Field required"
  | .notText => "Input should be a valid string"
  | .notInt => "Input should be a valid integer"
  | .unreadableInt => "Input should be a valid integer, unable to parse string as an integer"
  | .fractionalInt => "Input should be a valid integer, got a number with a fractional part"
  | .unboundedInt => "Input should be a finite number"
  | .oversizedInt => "Unable to parse input string as an integer, exceeded maximum size"
  | .notBool => "Input should be a valid boolean"
  | .unreadableBool => "Input should be a valid boolean, unable to interpret input"
  | .notList => "Input should be a valid list"
  | .notTable className => s!"Input should be a valid dictionary or instance of {className}"
  | .notPair => "Input should be a valid tuple"
  | .tooManyItems count =>
    s!"Tuple should have at most 2 items after validation, not {decimal count}"
  | .rejected reason => s!"Value error, {reason}"
  | .frozen => "Instance is frozen"

end Problem

structure Issue where
  place : List PathStep
  problem : Problem
  deriving DecidableEq

/-- The result of a check: a value, or the issues that stand in its way. -/
inductive Checked (α : Type) where
  | sound (value : α)
  | flawed (issues : List Issue)

namespace Checked

variable {α β : Type}

def map (f : α → β) : Checked α → Checked β
  | .sound value => .sound (f value)
  | .flawed issues => .flawed issues

/-- Applies a checked function; issues of the function come before those of its argument. -/
def apply : Checked (α → β) → Checked α → Checked β
  | .sound f, .sound value => .sound (f value)
  | .sound _, .flawed issues => .flawed issues
  | .flawed issues, .sound _ => .flawed issues
  | .flawed issues, .flawed more => .flawed (issues ++ more)

instance : Applicative Checked where
  pure := .sound
  map := map
  seq f value := apply f (value ())

def andThen (checked : Checked α) (next : α → Checked β) : Checked β :=
  match checked with
  | .sound value => next value
  | .flawed issues => .flawed issues

def problem (problem : Problem) : Checked α := .flawed [⟨[], problem⟩]

def within (step : PathStep) : Checked α → Checked α
  | .sound value => .sound value
  | .flawed issues => .flawed (issues.map fun issue => { issue with place := step :: issue.place })

def items (check : β → Checked α) : Nat → List β → Checked (List α)
  | _, [] => .sound []
  | index, item :: rest =>
    apply (map List.cons (within (.item index) (check item))) (items check (index + 1) rest)

end Checked

end HeapProbe
