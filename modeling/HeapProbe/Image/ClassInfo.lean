/-! # Classes and their members

Debug information describes a class by its direct bases, each at an offset, followed by its own
fields. Flattening lists every data member with its offset from the start of the class that was
looked up: bases come first, in order, and a later member replaces an earlier one of its name, so
what a class declares itself hides what it inherits.
-/

namespace HeapProbe

structure FieldType where
  name : String
  size : Int
  deriving DecidableEq

/-- A declared field; padding and anonymous unions have no name or an empty one. -/
structure Field where
  name : Option String
  offset : Int
  type : Option FieldType := some ⟨"size_t", 8⟩
  deriving DecidableEq

/-- A class: its direct bases in declaration order, then its own fields. -/
inductive ClassInfo where
  | fields (own : List Field)
  | derived (base : ClassInfo) (offset : Int) (rest : ClassInfo)

structure Member where
  name : String
  offset : Int
  type : Option FieldType
  deriving DecidableEq

/-- Members under distinct names. -/
abbrev Members := List Member

/-- What stands in another member's place once this one is put in. -/
def Member.over (member other : Member) : Member :=
  if other.name = member.name then member else other

/-- Puts a member in: in the place of the one of its name, or else at the end. -/
def Members.put (members : Members) (member : Member) : Members :=
  if members.any (fun other => other.name = member.name) then members.map member.over
  else members ++ [member]

def Members.find? (members : Members) (name : String) : Option Member :=
  List.find? (fun member => member.name = name) members

/-- The member that a field makes in a class laid out from `start`; an unnamed field makes none. -/
def Field.member? (start : Int) (field : Field) : Option Member :=
  match field.name with
  | none => none
  | some name => if name = "" then none else some ⟨name, start + field.offset, field.type⟩

namespace ClassInfo

/-- Adds the members of a class laid out from `start` to those already found. -/
def collect : ClassInfo → Int → Members → Members
  | .fields own, start, found => (own.filterMap (Field.member? start)).foldl Members.put found
  | .derived base offset rest, start, found =>
    rest.collect start (base.collect (start + offset) found)

def members (info : ClassInfo) : Members := info.collect 0 []

def ofDeclaration (bases : List (ClassInfo × Int)) (own : List Field) : ClassInfo :=
  bases.foldr (fun base rest => .derived base.1 base.2 rest) (.fields own)

end ClassInfo

@[simp] theorem Member.name_over (member other : Member) :
    (member.over other).name = other.name := by
  unfold Member.over
  split
  · next h => exact h.symm
  · rfl

namespace Members

theorem find?_map_over (members : Members) (member : Member) (name : String) :
    find? (members.map member.over) name = (members.find? name).map member.over := by
  have hname : (fun other : Member => decide (other.name = name)) ∘ member.over =
      fun other => decide (other.name = name) := by
    funext other
    rw [Function.comp_apply, Member.name_over]
  rw [find?, List.find?_map, hname, find?]

/-- What is put in is found under its name, and all else as before. -/
theorem find?_put (members : Members) (member : Member) (name : String) :
    (members.put member).find? name =
      if member.name = name then some member else members.find? name := by
  unfold put
  split
  · next hany =>
    rw [find?_map_over]
    split
    · next hname =>
      subst hname
      obtain ⟨other, hother⟩ := Option.isSome_iff_exists.1
        (List.find?_isSome.2 (List.any_eq_true.1 hany))
      have hsame : other.name = member.name := by simpa using List.find?_some hother
      rw [find?, hother, Option.map_some, Member.over, if_pos hsame]
    · next hname =>
      cases hother : members.find? name with
      | none => rfl
      | some other =>
        have hsame : other.name = name := by simpa using List.find?_some hother
        rw [Option.map_some, Member.over, if_neg (hsame ▸ Ne.symm hname)]
  · next hnone =>
    rw [find?, List.find?_append]
    split
    · next hname =>
      have hmissing :
          List.find? (fun other : Member => decide (other.name = name)) members = none := by
        simpa [hname] using hnone
      simp [hmissing, hname]
    · next hname => simp [find?, hname]

theorem find?_put_self (members : Members) (member : Member) :
    (members.put member).find? member.name = some member := by
  rw [find?_put, if_pos rfl]

theorem find?_put_of_ne (members : Members) {member : Member} {name : String}
    (h : member.name ≠ name) : (members.put member).find? name = members.find? name := by
  rw [find?_put, if_neg h]

end Members

end HeapProbe
