import HeapProbe.Image.ClassInfo
import HeapProbe.Layout

/-! # Where a class keeps its fields

The offset of a named field follows from the declaration of a class alone: the last own field of that
name has it, and where there is none the last base that has such a field, its own offset added.
Flattening a class yields exactly these offsets, however deep its bases are nested.
-/

namespace HeapProbe

/-- The offset of the last field of a name. Unnamed fields cannot be asked for. -/
def Field.offsetIn (name : String) : List Field → Option Int
  | [] => none
  | field :: rest =>
    (offsetIn name rest).or
      (if name ≠ "" ∧ field.name = some name then some field.offset else none)

def ClassInfo.offset? (name : String) : ClassInfo → Option Int
  | .fields own => Field.offsetIn name own
  | .derived base offset rest => (rest.offset? name).or ((base.offset? name).map (offset + ·))

namespace Members

def offset? (members : Members) (name : String) : Option Int :=
  (members.find? name).map Member.offset

@[simp] theorem offset?_nil (name : String) : offset? [] name = none := rfl

theorem offset?_put (members : Members) (member : Member) (name : String) :
    (members.put member).offset? name =
      if member.name = name then some member.offset else members.offset? name := by
  unfold offset?
  rw [find?_put]
  split <;> rfl

theorem lookup_offsets (members : Members) (name : String) :
    (members.map fun member => (member.name, member.offset)).lookup name =
      members.offset? name := by
  induction members with
  | nil => rfl
  | cons first rest ih =>
    rw [List.map_cons, List.lookup_cons, ih]
    unfold offset? find?
    rw [List.find?_cons]
    by_cases h : first.name = name
    · simp [h]
    · have hne : (name == first.name) = false := by simpa using Ne.symm h
      simp [h, hne]

end Members

namespace ClassInfo

theorem offset?_put_field (field : Field) (start : Int) (found : Members) (name : String) :
    (((Field.member? start field).toList).foldl Members.put found).offset? name =
      ((if name ≠ "" ∧ field.name = some name then some field.offset else none).map
        (start + ·)).or (found.offset? name) := by
  unfold Field.member?
  cases hn : field.name with
  | none => simp
  | some own =>
    by_cases he : own = ""
    · have hno : ¬ (name ≠ "" ∧ some own = some name) := by
        rintro ⟨hne, h⟩
        exact hne ((Option.some.inj h).symm.trans he)
      rw [if_neg hno]
      simp [he]
    · by_cases h : own = name
      · subst h
        simp [he, Members.offset?_put]
      · simp [he, h, Members.offset?_put]

theorem offset?_foldl_put (own : List Field) (start : Int) (found : Members) (name : String) :
    ((own.filterMap (Field.member? start)).foldl Members.put found).offset? name =
      ((Field.offsetIn name own).map (start + ·)).or (found.offset? name) := by
  induction own generalizing found with
  | nil => simp [Field.offsetIn]
  | cons field rest ih =>
    have hcons : (field :: rest).filterMap (Field.member? start) =
        (Field.member? start field).toList ++ rest.filterMap (Field.member? start) := by
      rw [List.filterMap_cons]
      cases Field.member? start field <;> rfl
    rw [hcons, List.foldl_append, ih, offset?_put_field, Field.offsetIn]
    cases Field.offsetIn name rest <;> rfl

/-- Laid out from `start` over what was found before, a class puts its own fields first. -/
theorem offset?_collect (info : ClassInfo) (start : Int) (found : Members) (name : String) :
    (info.collect start found).offset? name =
      ((info.offset? name).map (start + ·)).or (found.offset? name) := by
  induction info generalizing start found with
  | fields own => exact offset?_foldl_put own start found name
  | derived base offset rest ihBase ihRest =>
    rw [collect, ihRest, ihBase, offset?]
    cases rest.offset? name with
    | some _ => rfl
    | none =>
      cases base.offset? name with
      | some _ => simp [Int.add_assoc]
      | none => rfl

/-- Flattening keeps every field where its declaration puts it. -/
theorem lookup_members (info : ClassInfo) (name : String) :
    (info.members.map fun member => (member.name, member.offset)).lookup name =
      info.offset? name := by
  rw [Members.lookup_offsets, members, offset?_collect]
  simp

end ClassInfo

end HeapProbe
