import Mathlib
import HeapProbe.Proofs.Target.Lookup

/-! # Flattening a class

The members of a class are found by one pass over its bases and fields that adds to what was found
before. What comes out is the same as if each base were flattened by itself, moved to its offset and
laid over the bases before it, and the class's own fields over all of them. From there the rules of
shadowing follow: an own field hides what is inherited, a later base hides an earlier one, and each
offset is the sum of those on the way to the field.
-/

namespace HeapProbe

/-- The member in a class that has the one it belongs to as its part at an offset. -/
def Member.moved (offset : Int) (member : Member) : Member :=
  { member with offset := offset + member.offset }

namespace Members

def moved (offset : Int) (members : Members) : Members := members.map (Member.moved offset)

/-- Lays members over others: one of the same name is hidden, and of several the last counts. -/
def overlay (members later : Members) : Members := later.foldl put members

section Put

variable (members : Members) (member : Member)

theorem put_of_mem (h : member.name ∈ members.map Member.name) :
    members.put member = members.map member.over := by
  rw [put, if_pos (by simpa using h)]

theorem put_of_not_mem (h : member.name ∉ members.map Member.name) :
    members.put member = members ++ [member] := by
  rw [put, if_neg (by simpa using h)]

theorem names_map_over : (members.map member.over).map Member.name = members.map Member.name := by
  simp [Function.comp_def]

theorem mem_put {other : Member} (h : other ∈ members.put member) :
    other ∈ members ∨ other = member := by
  unfold put at h
  split at h
  · obtain ⟨kept, hk, rfl⟩ := List.mem_map.1 h
    unfold Member.over
    split
    · exact .inr rfl
    · exact .inl hk
  · simpa using h

theorem mem_names_put {name : String} :
    name ∈ (members.put member).map Member.name ↔
      name ∈ members.map Member.name ∨ name = member.name := by
  by_cases h : member.name ∈ members.map Member.name
  · rw [put_of_mem members member h, names_map_over]
    refine ⟨.inl, fun hname => hname.elim id ?_⟩
    rintro rfl
    exact h
  · rw [put_of_not_mem members member h]
    simp

theorem nodup_put (h : (members.map Member.name).Nodup) :
    ((members.put member).map Member.name).Nodup := by
  by_cases hmem : member.name ∈ members.map Member.name
  · rwa [put_of_mem members member hmem, names_map_over]
  · rw [put_of_not_mem members member hmem, List.map_append]
    exact h.append (List.nodup_singleton _) (by simpa using hmem)

variable {f : Member → Member} (hf : ∀ other, (f other).name = other.name)

include hf in
/-- A change of members that keeps their names goes through when one is put in. -/
theorem map_put : (members.put member).map f = put (members.map f) (f member) := by
  have hover (other : Member) : f (member.over other) = (f member).over (f other) := by
    unfold Member.over
    rw [hf, hf]
    split <;> rfl
  have hnames : (members.map f).map Member.name = members.map Member.name := by
    simp [Function.comp_def, hf]
  by_cases h : member.name ∈ members.map Member.name
  · rw [put_of_mem members member h, put_of_mem _ _ (by rwa [hf, hnames])]
    simp [hover]
  · rw [put_of_not_mem members member h, put_of_not_mem _ _ (by rwa [hf, hnames])]
    simp

/-- What stood in the place of a member before it was put in does not matter. -/
theorem put_map_over : put (members.map member.over) member = members.put member := by
  have hself : member.over member = member := if_pos rfl
  have hmap := members.map_put member member.name_over
  rw [hself] at hmap
  rw [← hmap]
  by_cases h : member.name ∈ members.map Member.name
  · rw [put_of_mem members member h, List.map_map]
    refine List.map_congr_left fun other _ => ?_
    by_cases hother : other.name = member.name <;> simp [Member.over, hother]
  · rw [put_of_not_mem members member h, List.map_append, List.map_singleton, hself]
    congr 1
    refine (List.map_congr_left fun other hmem => ?_).trans (List.map_id _)
    have hother : other.name ≠ member.name := fun hname =>
      h (List.mem_map.2 ⟨other, hmem, hname⟩)
    exact if_neg hother

end Put

section Overlay

variable (members later : Members)

@[simp] theorem overlay_nil : members.overlay [] = members := rfl

@[simp] theorem overlay_cons (member : Member) :
    members.overlay (member :: later) = (members.put member).overlay later := rfl

theorem overlay_append (last : Members) :
    members.overlay (later ++ last) = (members.overlay later).overlay last := List.foldl_append

theorem map_overlay {f : Member → Member} (hf : ∀ other, (f other).name = other.name) :
    (members.overlay later).map f = overlay (members.map f) (later.map f) := by
  induction later generalizing members with
  | nil => rfl
  | cons first rest ih =>
    rw [overlay_cons, ih, map_put members first hf, List.map_cons, overlay_cons]

theorem moved_overlay (offset : Int) :
    moved offset (members.overlay later) = (moved offset members).overlay (moved offset later) :=
  members.map_overlay later fun _ => rfl

theorem mem_overlay {member : Member} (h : member ∈ members.overlay later) :
    member ∈ members ∨ member ∈ later := by
  induction later generalizing members with
  | nil => exact .inl h
  | cons first rest ih =>
    rcases ih _ h with h | h
    · rcases mem_put members first h with h | rfl
      · exact .inl h
      · exact .inr List.mem_cons_self
    · exact .inr (List.mem_cons_of_mem first h)

theorem nodup_overlay (h : (members.map Member.name).Nodup) :
    ((members.overlay later).map Member.name).Nodup := by
  induction later generalizing members with
  | nil => exact h
  | cons first rest ih => exact ih _ (nodup_put members first h)

theorem find?_overlay (name : String) :
    (members.overlay later).find? name =
      ((overlay [] later).find? name).or (members.find? name) := by
  induction later generalizing members with
  | nil => rfl
  | cons first rest ih =>
    have hnone : find? [] name = none := rfl
    rw [overlay_cons, overlay_cons, ih, ih (put [] first), find?_put members first,
      find?_put [] first, Option.or_assoc, hnone]
    split <;> rfl

theorem find?_overlay_of_forall_ne {name : String} (h : ∀ member ∈ later, member.name ≠ name) :
    (members.overlay later).find? name = members.find? name := by
  induction later generalizing members with
  | nil => rfl
  | cons first rest ih =>
    rw [overlay_cons, ih _ fun member hm => h member (List.mem_cons_of_mem first hm)]
    exact find?_put_of_ne members (h first List.mem_cons_self)

theorem mem_names_overlay {name : String} :
    name ∈ (members.overlay later).map Member.name ↔
      name ∈ members.map Member.name ∨ name ∈ later.map Member.name := by
  induction later generalizing members with
  | nil => simp
  | cons first rest ih =>
    rw [overlay_cons, ih, mem_names_put, List.map_cons, List.mem_cons, or_assoc]

/-- What is hidden by a member may as well be replaced by it beforehand. -/
theorem overlay_map_over {member : Member} (h : member.name ∈ later.map Member.name) :
    overlay (members.map member.over) (later.map member.over) =
      members.overlay (later.map member.over) := by
  induction later generalizing members with
  | nil => cases h
  | cons first rest ih =>
    rw [List.map_cons, overlay_cons, overlay_cons]
    by_cases hfirst : first.name = member.name
    · have hover : member.over first = member := if_pos hfirst
      rw [hover, put_map_over]
    · have hrest : member.name ∈ rest.map Member.name :=
        (List.mem_cons.1 h).resolve_left fun hname => hfirst hname.symm
      have hover : member.over first = first := if_neg hfirst
      have hput := members.map_put first member.name_over
      rw [hover] at hput
      rw [hover, ← hput, ih _ hrest]

/-- It does not matter whether a member joins before or after the others are laid over. -/
theorem overlay_put (member : Member) :
    members.overlay (later.put member) = (members.overlay later).put member := by
  by_cases h : member.name ∈ later.map Member.name
  · have hmem := (mem_names_overlay members later).2 (.inr h)
    rw [put_of_mem later member h, put_of_mem _ member hmem, map_overlay _ _ member.name_over,
      overlay_map_over members later h]
  · rw [put_of_not_mem later member h, overlay_append, overlay_cons, overlay_nil]

theorem overlay_overlay (last : Members) :
    members.overlay (later.overlay last) = (members.overlay later).overlay last := by
  induction last generalizing later with
  | nil => rfl
  | cons first rest ih => rw [overlay_cons, overlay_cons, ih, overlay_put]

end Overlay

@[simp] theorem moved_zero (members : Members) : moved 0 members = members := by
  have hmember : Member.moved 0 = id := by
    funext member
    simp [Member.moved]
  rw [moved, hmember, List.map_id]

theorem moved_moved (members : Members) (outer inner : Int) :
    moved outer (moved inner members) = moved (outer + inner) members := by
  simp [moved, Member.moved, Int.add_assoc]

theorem names_moved (members : Members) (offset : Int) :
    (moved offset members).map Member.name = members.map Member.name := by
  rw [moved, List.map_map]
  rfl

theorem find?_moved (members : Members) (offset : Int) (name : String) :
    (moved offset members).find? name = (members.find? name).map (Member.moved offset) := by
  rw [moved, find?, List.find?_map]
  rfl

end Members

namespace Field

def named (own : List Field) : Members := own.filterMap (member? 0)

theorem member?_eq_moved (field : Field) (start : Int) :
    field.member? start = (field.member? 0).map (Member.moved start) := by
  unfold member?
  cases field.name with
  | none => rfl
  | some name => by_cases h : name = "" <;> simp [h, Member.moved]

theorem filterMap_member? (own : List Field) (start : Int) :
    own.filterMap (member? start) = Members.moved start (named own) := by
  rw [named, Members.moved, List.map_filterMap]
  congr 1
  funext field
  exact field.member?_eq_moved start

theorem member?_eq_some {field : Field} {member : Member} :
    field.member? 0 = some member ↔
      field.name = some member.name ∧ member.name ≠ "" ∧ member.offset = field.offset ∧
        member.type = field.type := by
  obtain ⟨name, offset, type⟩ := member
  unfold member?
  cases field.name with
  | none => simp
  | some own => grind

theorem forall_named_ne {own : List Field} {name : String}
    (h : ∀ field ∈ own, field.name ≠ some name) : ∀ member ∈ named own, member.name ≠ name := by
  intro member hm hname
  obtain ⟨field, hf, hfm⟩ := List.mem_filterMap.1 hm
  exact h field hf (hname ▸ (member?_eq_some.1 hfm).1)

theorem mem_names_named {own : List Field} {name : String} :
    name ∈ (named own).map Member.name ↔
      name ≠ "" ∧ ∃ field ∈ own, field.name = some name := by
  constructor
  · intro h
    obtain ⟨member, hm, rfl⟩ := List.mem_map.1 h
    obtain ⟨field, hf, hfm⟩ := List.mem_filterMap.1 hm
    obtain ⟨hname, hne, -⟩ := member?_eq_some.1 hfm
    exact ⟨hne, field, hf, hname⟩
  · rintro ⟨hne, field, hf, hname⟩
    have hm : field.member? 0 = some ⟨name, field.offset, field.type⟩ :=
      member?_eq_some.2 ⟨hname, hne, rfl, rfl⟩
    exact List.mem_map.2 ⟨_, List.mem_filterMap.2 ⟨field, hf, hm⟩, rfl⟩

end Field

namespace ClassInfo

def bases : ClassInfo → List (ClassInfo × Int)
  | .fields _ => []
  | .derived base offset rest => (base, offset) :: rest.bases

def own : ClassInfo → List Field
  | .fields own => own
  | .derived _ _ rest => rest.own

/-- The class declares the field, itself or through the bases at these offsets, outermost first. -/
inductive Declares : ClassInfo → List Int → Field → Prop
  | own {info : ClassInfo} {field : Field} : field ∈ info.own → info.Declares [] field
  | inherited {info base : ClassInfo} {offset : Int} {path : List Int} {field : Field} :
    (base, offset) ∈ info.bases → base.Declares path field → info.Declares (offset :: path) field

@[simp] theorem bases_ofDeclaration (bases : List (ClassInfo × Int)) (own : List Field) :
    (ofDeclaration bases own).bases = bases := by
  induction bases with
  | nil => rfl
  | cons base rest ih => exact congrArg (base :: ·) ih

@[simp] theorem own_ofDeclaration (bases : List (ClassInfo × Int)) (own : List Field) :
    (ofDeclaration bases own).own = own := by
  induction bases with
  | nil => rfl
  | cons base rest ih => exact ih

theorem declares_fields {own : List Field} {path : List Int} {field : Field} :
    (ClassInfo.fields own).Declares path field ↔ path = [] ∧ field ∈ own := by
  constructor
  · intro h
    cases h with
    | own h => exact ⟨rfl, h⟩
    | inherited h => cases h
  · rintro ⟨rfl, h⟩
    exact .own h

theorem declares_derived {base rest : ClassInfo} {offset : Int} {path : List Int} {field : Field} :
    (ClassInfo.derived base offset rest).Declares path field ↔
      rest.Declares path field ∨ ∃ inner, path = offset :: inner ∧ base.Declares inner field := by
  constructor
  · intro h
    cases h with
    | own h => exact .inl (.own h)
    | inherited h hd =>
      rcases List.mem_cons.1 h with h | h
      · cases h
        exact .inr ⟨_, rfl, hd⟩
      · exact .inl (.inherited h hd)
  · rintro (h | ⟨inner, rfl, h⟩)
    · cases h with
      | own h => exact .own h
      | inherited h hd => exact .inherited (List.mem_cons_of_mem _ h) hd
    · exact .inherited List.mem_cons_self h

/-- Collecting lays the members of the class, moved to where it starts, over what was found. -/
theorem collect_eq_overlay (info : ClassInfo) (start : Int) (found : Members) :
    info.collect start found = found.overlay (info.members.moved start) := by
  unfold members
  -- The pass hands on both where it stands and what it found, so the induction is for all of them.
  induction info generalizing start found with
  | fields own =>
    have hown (start : Int) (found : Members) :
        (ClassInfo.fields own).collect start found =
          found.overlay (Members.moved start (Field.named own)) := by
      rw [collect, Field.filterMap_member?, Members.overlay]
    rw [hown, hown, Members.moved_zero, Members.moved_overlay, Members.overlay_overlay]
    rfl
  | derived base offset rest ihBase ihRest =>
    have hmembers : (ClassInfo.derived base offset rest).collect 0 [] =
        (Members.overlay [] (Members.moved offset (base.collect 0 []))).overlay
          (rest.collect 0 []) := by
      rw [collect, ihRest 0 (base.collect (0 + offset) []), ihBase (0 + offset) [],
        Members.moved_zero, Int.zero_add]
    rw [hmembers, Members.moved_overlay, Members.moved_overlay, Members.moved_moved,
      Members.overlay_overlay, Members.overlay_overlay, collect, ihRest, ihBase]
    rfl

theorem overlay_nil_members (info : ClassInfo) :
    Members.overlay [] info.members = info.members := by
  have h := info.collect_eq_overlay 0 []
  rw [Members.moved_zero] at h
  exact h.symm

theorem members_fields (own : List Field) :
    (ClassInfo.fields own).members = Members.overlay [] (Field.named own) := by
  rw [members, collect, Field.filterMap_member?, Members.moved_zero, Members.overlay]

theorem members_derived (base : ClassInfo) (offset : Int) (rest : ClassInfo) :
    (ClassInfo.derived base offset rest).members =
      (base.members.moved offset).overlay rest.members := by
  rw [members, collect, collect_eq_overlay, collect_eq_overlay, Members.moved_zero, Int.zero_add,
    ← overlay_nil_members base, Members.moved_overlay, Members.overlay_overlay]
  rfl

def overlaidBases (bases : List (ClassInfo × Int)) : Members :=
  bases.foldl (fun found base => found.overlay (base.1.members.moved base.2)) []

/-- Flattening is compositional: the bases in order, then the own fields over them. -/
theorem members_eq (info : ClassInfo) :
    info.members = (overlaidBases info.bases).overlay (Field.named info.own) := by
  -- A fold starts anew in its tail, so the equation is wanted over any members, not only over none.
  have h (found : Members) : found.overlay info.members =
      (info.bases.foldl (fun found base => found.overlay (base.1.members.moved base.2))
        found).overlay (Field.named info.own) := by
    induction info generalizing found with
    | fields own =>
      rw [members_fields, Members.overlay_overlay]
      rfl
    | derived base offset rest _ ihRest =>
      rw [members_derived, Members.overlay_overlay, ihRest]
      rfl
  rw [← overlay_nil_members, h]
  rfl

theorem nodup_members (info : ClassInfo) : (info.members.map Member.name).Nodup := by
  rw [← overlay_nil_members]
  exact Members.nodup_overlay [] _ List.nodup_nil

/-- The keys of a flattened class are the names declared anywhere in its hierarchy. -/
theorem mem_names_members {info : ClassInfo} {name : String} :
    name ∈ info.members.map Member.name ↔
      name ≠ "" ∧ ∃ path field, info.Declares path field ∧ field.name = some name := by
  induction info with
  | fields own =>
    rw [members_fields, Members.mem_names_overlay, Field.mem_names_named]
    simp [declares_fields, and_assoc]
  | derived base offset rest ihBase ihRest =>
    rw [members_derived, Members.mem_names_overlay, Members.names_moved, ihBase, ihRest]
    simp only [declares_derived]
    grind

/-- A member lies where the bases on the way to its declaration put it. -/
theorem declares_of_mem_members {info : ClassInfo} {member : Member} (h : member ∈ info.members) :
    ∃ path field, info.Declares path field ∧ field.name = some member.name ∧
      member.offset = field.offset + path.sum ∧ member.type = field.type := by
  induction info generalizing member with
  | fields own =>
    rw [members_fields] at h
    rcases Members.mem_overlay _ _ h with h | h
    · cases h
    · obtain ⟨field, hf, hm⟩ := List.mem_filterMap.1 h
      obtain ⟨hname, -, hoffset, htype⟩ := Field.member?_eq_some.1 hm
      exact ⟨[], field, declares_fields.2 ⟨rfl, hf⟩, hname, by simpa using hoffset, htype⟩
  | derived base offset rest ihBase ihRest =>
    rw [members_derived] at h
    rcases Members.mem_overlay _ _ h with h | h
    · obtain ⟨inner, hi, rfl⟩ := List.mem_map.1 h
      obtain ⟨path, field, hd, hname, hoffset, htype⟩ := ihBase hi
      refine ⟨offset :: path, field, declares_derived.2 (.inr ⟨path, rfl, hd⟩), hname, ?_, htype⟩
      show offset + inner.offset = field.offset + (offset :: path).sum
      rw [List.sum_cons, hoffset]
      omega
    · obtain ⟨path, field, hd, hrest⟩ := ihRest h
      exact ⟨path, field, declares_derived.2 (.inl hd), hrest⟩

/-- A class's own field of a name hides every other of it, save a later own one. -/
theorem find?_members_own {info : ClassInfo} {before after : List Field} {field : Field}
    {name : String} (hown : info.own = before ++ field :: after) (hname : field.name = some name)
    (hne : name ≠ "") (hlast : ∀ later ∈ after, later.name ≠ some name) :
    info.members.find? name = some ⟨name, field.offset, field.type⟩ := by
  have hmember : field.member? 0 = some ⟨name, field.offset, field.type⟩ :=
    Field.member?_eq_some.2 ⟨hname, hne, rfl, rfl⟩
  have hnamed : Field.named info.own =
      Field.named before ++ ⟨name, field.offset, field.type⟩ :: Field.named after := by
    rw [hown, Field.named, List.filterMap_append, List.filterMap_cons_some hmember]
    rfl
  rw [members_eq, hnamed, Members.overlay_append, Members.overlay_cons,
    Members.find?_overlay_of_forall_ne _ _ (Field.forall_named_ne hlast)]
  exact Members.find?_put_self _ ⟨name, field.offset, field.type⟩

theorem find?_overlay_members (found : Members) (base : ClassInfo) (offset : Int) (name : String) :
    (found.overlay (base.members.moved offset)).find? name =
      ((base.members.find? name).map (Member.moved offset)).or (found.find? name) := by
  have hbase : Members.overlay [] (base.members.moved offset) = base.members.moved offset := by
    rw [← base.overlay_nil_members, Members.moved_overlay]
    exact Members.overlay_overlay [] [] _
  rw [Members.find?_overlay, hbase, Members.find?_moved]

theorem find?_foldl_overlay_of_none {bases : List (ClassInfo × Int)} {name : String}
    (h : ∀ base ∈ bases, base.1.members.find? name = none) (found : Members) :
    (bases.foldl (fun found base => found.overlay (base.1.members.moved base.2)) found).find? name =
      found.find? name := by
  induction bases generalizing found with
  | nil => rfl
  | cons first rest ih =>
    rw [List.foldl_cons, ih fun base hb => h base (List.mem_cons_of_mem first hb),
      find?_overlay_members, h first List.mem_cons_self]
    rfl

/-- A name that the class does not declare itself comes from the last base that has it. -/
theorem find?_members_base {info base : ClassInfo} {before after : List (ClassInfo × Int)}
    {offset : Int} {name : String} {member : Member}
    (hbases : info.bases = before ++ (base, offset) :: after)
    (hown : ∀ field ∈ info.own, field.name ≠ some name)
    (hlast : ∀ later ∈ after, later.1.members.find? name = none)
    (hmember : base.members.find? name = some member) :
    info.members.find? name = some (member.moved offset) := by
  rw [members_eq, Members.find?_overlay_of_forall_ne _ _ (Field.forall_named_ne hown), hbases,
    overlaidBases, List.foldl_append, List.foldl_cons, find?_foldl_overlay_of_none hlast,
    find?_overlay_members, hmember]
  rfl

structure Flattens (info : ClassInfo) (members : Members) : Prop where
  overlaid : members = (overlaidBases info.bases).overlay (Field.named info.own)
  distinct : (members.map Member.name).Nodup
  keys (name : String) : name ∈ members.map Member.name ↔
    name ≠ "" ∧ ∃ path field, info.Declares path field ∧ field.name = some name
  places : ∀ member ∈ members, ∃ path field, info.Declares path field ∧
    field.name = some member.name ∧ member.offset = field.offset + path.sum ∧
      member.type = field.type
  ownLast {before after : List Field} {field : Field} {name : String} :
    info.own = before ++ field :: after → field.name = some name → name ≠ "" →
      (∀ later ∈ after, later.name ≠ some name) →
        members.find? name = some ⟨name, field.offset, field.type⟩
  lastBase {before after : List (ClassInfo × Int)} {base : ClassInfo} {offset : Int}
    {name : String} {member : Member} :
    info.bases = before ++ (base, offset) :: after → (∀ field ∈ info.own, field.name ≠ some name) →
      (∀ later ∈ after, later.1.members.find? name = none) →
        base.members.find? name = some member → members.find? name = some (member.moved offset)
  shifted (start : Int) (found : Members) :
    info.collect start found = found.overlay (members.moved start)
  unhidden (start : Int) (found : Members) (name : String) :
    (info.collect start found).find? name =
      ((members.find? name).map (Member.moved start)).or (found.find? name)

theorem flattens_members (info : ClassInfo) : info.Flattens info.members where
  overlaid := members_eq info
  distinct := nodup_members info
  keys _ := mem_names_members
  places _ := declares_of_mem_members
  ownLast := find?_members_own
  lastBase := find?_members_base
  shifted := collect_eq_overlay info
  unhidden start found name := by rw [collect_eq_overlay, find?_overlay_members]

end ClassInfo

namespace Target

open Probe (outcome)

/-- Looking up the members of a class flattens it. -/
theorem members_flatten {target : Target} {context : Context} {image : Image} {typeName : String}
    {info : ClassInfo} (hi : target.imageOn context.host = some image)
    (hl : image.classes.lookup typeName = some info) :
    outcome (target.members typeName) context = .ok info.members ∧
      info.Flattens info.members := by
  have hm : (target.members typeName).Finds (context.scene 0) _ := .members target typeName
  have hfound : (membersFinding (target.imageOn context.host) typeName).outcome =
      .ok info.members := by
    rw [membersFinding, hi, Option.bind_some, hl]
  exact ⟨(hm.outcome_eq rfl).trans hfound, info.flattens_members⟩

/-- Two bases share a base of their own and declare one name between them; the class declares
another one twice. -/
def diamondInfo : ClassInfo :=
  let shared := ClassInfo.ofDeclaration [] [⟨some "first", 0, none⟩, ⟨some "second", 8, none⟩]
  let left := ClassInfo.ofDeclaration [(shared, 0)] [⟨some "second", 16, none⟩]
  let right := ClassInfo.ofDeclaration [(shared, 8)] [⟨none, 4, none⟩, ⟨some "third", 0, none⟩]
  .ofDeclaration [(left, 0), (right, 24)] [⟨some "first", 64, none⟩, ⟨some "first", 72, none⟩]

def diamondContext : Context where
  host := { images := [{ classes := [("Diamond", diamondInfo)] }] }

/-- The second field comes through the right base, and the first is the last of its own. -/
theorem members_flatten_diamond :
    outcome (Target.members ⟨some 0⟩ "Diamond") diamondContext = .ok diamondInfo.members ∧
      diamondInfo.members.find? "first" = some ⟨"first", 72, none⟩ ∧
      diamondInfo.members.find? "second" = some (Member.moved 24 ⟨"second", 16, none⟩) := by
  have hflatten : outcome (Target.members ⟨some 0⟩ "Diamond") diamondContext =
      .ok diamondInfo.members ∧ diamondInfo.Flattens diamondInfo.members := members_flatten rfl rfl
  have hbases : ∃ left right, diamondInfo.bases = [left] ++ (right, 24) :: [] ∧
      right.members.find? "second" = some ⟨"second", 16, none⟩ :=
    ⟨_, _, ClassInfo.bases_ofDeclaration _ _, rfl⟩
  obtain ⟨left, right, hbases, hright⟩ := hbases
  have hown : diamondInfo.own = [⟨some "first", 64, none⟩] ++ ⟨some "first", 72, none⟩ :: [] :=
    ClassInfo.own_ofDeclaration _ _
  have hnone : ∀ field ∈ diamondInfo.own, field.name ≠ some "second" := by decide
  exact ⟨hflatten.1, hflatten.2.ownLast hown rfl (by decide) nofun,
    hflatten.2.lastBase hbases hnone nofun hright⟩

end Target

end HeapProbe
