import HeapProbe.Fault

/-! # Layouts

A layout holds the byte offsets that the readers need: those of the heap object, relative to its
address, and those of one region object. Offsets are picked by name out of what a class offers, and
a name that is not offered is reported together with all others that are missing.
-/

namespace HeapProbe

abbrev FieldOffsets := List (String × Int)

/-- Raised whenever the set of offsets changes shape. -/
def layoutVersion : Int := 1

/-- Offsets of the heap object's fields; the reserved range is a nested object, whose two fields
are counted from the heap object as well. -/
structure HeapLayout where
  version : Int := layoutVersion
  numRegions : Int
  used : Int
  committed : Int
  regions : Int
  reservedStart : Int
  reservedWordSize : Int
  deriving DecidableEq, Inhabited

structure RegionLayout where
  version : Int := layoutVersion
  state : Int
  bottom : Int
  limit : Int
  top : Int
  deriving DecidableEq, Inhabited

def HeapLayout.ofOffsets (heap : Vector Int 5) (range : Vector Int 2) : HeapLayout where
  numRegions := heap[0]
  used := heap[1]
  committed := heap[2]
  regions := heap[3]
  reservedStart := heap[4] + range[0]
  reservedWordSize := heap[4] + range[1]

def RegionLayout.ofOffsets (offsets : Vector Int 4) : RegionLayout where
  state := offsets[0]
  bottom := offsets[1]
  limit := offsets[2]
  top := offsets[3]

/-- The names that a class does not offer, each as often as it was asked for. -/
def FieldOffsets.missing (fields : FieldOffsets) (names : List String) : List String :=
  names.filter fun name => (fields.lookup name).isNone

/-- The offsets of the wanted fields, in the order of their names. -/
def FieldOffsets.pick {n : Nat} (typeName : String) (fields : FieldOffsets)
    (names : Vector String n) : Except Fault (Vector Int n) :=
  match fields.missing names.toList with
  | [] => .ok (names.map fun name => (fields.lookup name).getD 0)
  | missing => .error (.missing typeName missing none)

theorem FieldOffsets.pick_eq_ok_iff {n : Nat} {typeName : String} {fields : FieldOffsets}
    {names : Vector String n} {offsets : Vector Int n} :
    fields.pick typeName names = .ok offsets ↔
      ∀ i (h : i < n), fields.lookup names[i] = some offsets[i] := by
  have hmissing : fields.missing names.toList = [] ↔
      ∀ i (h : i < n), (fields.lookup names[i]).isSome := by
    simp only [missing, List.filter_eq_nil_iff, Vector.mem_toList_iff, Vector.mem_iff_getElem]
    constructor
    · intro h i hi
      have := h names[i] ⟨i, hi, rfl⟩
      simpa [Option.isSome_iff_ne_none] using this
    · rintro h name ⟨i, hi, rfl⟩
      simpa [Option.isSome_iff_ne_none] using h i hi
  constructor
  · intro h i hi
    unfold pick at h
    split at h
    · next hm =>
      obtain ⟨offset, ho⟩ := Option.isSome_iff_exists.1 (hmissing.1 hm i hi)
      cases h
      simp [ho]
    · cases h
  · intro h
    have hm := hmissing.2 fun i hi => by simp [h i hi]
    unfold pick
    rw [hm]
    refine congrArg Except.ok (Vector.ext fun i hi => ?_)
    simp [h i hi]

end HeapProbe
