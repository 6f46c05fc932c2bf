import HeapProbe.Settings.Schema
import Mathlib.Tactic.Choose

/-! # Sections filled in

A section of the settings is checked field by field. If what is given has the types of the fields,
the check puts every given value into its place and the defaults into the others; what else is given
has no part in it. Only two things are refused then, a size of a region that is not positive and a
code of a state that is negative.
-/

namespace HeapProbe

/-- The value has the type of a field with such a default. The field that has none by default takes
an integer. -/
def Value.Fits (value : Value) : Value → Prop
  | .text _ => ∃ text, value = .text text
  | .bool _ => ∃ bool, value = .bool bool
  | .list _ => ∃ codes : List Int, value = .list (codes.map .int)
  | .null => value = .null ∨ ∃ n, value = .int n
  | .table _ => ∃ entries, value = .table entries
  | _ => False

namespace Entries

def Fits (given defaults : Entries) : Prop :=
  ∀ key default value, defaults.lookup key = some default → given.lookup key = some value →
    value.Fits default

/-- The defaults of a section, with the values that are given in their places. -/
def filledWith (defaults given : Entries) : Entries :=
  defaults.map fun entry => (entry.1, (given.lookup entry.1).getD entry.2)

theorem mem_of_lookup {entries : Entries} {key : String} {value : Value}
    (h : entries.lookup key = some value) : (key, value) ∈ entries := by
  obtain ⟨before, later, rfl, -⟩ := List.lookup_eq_some_iff.1 h
  simp

theorem fits_of_forall_mem {given defaults : Entries}
    (h : ∀ entry ∈ given, ∀ default, defaults.lookup entry.1 = some default →
      entry.2.Fits default) : given.Fits defaults :=
  fun _ default _ hdefault hvalue => h _ (mem_of_lookup hvalue) default hdefault

theorem lookup_filledWith (defaults given : Entries) (key : String) :
    (defaults.filledWith given).lookup key =
      (defaults.lookup key).map fun default => (given.lookup key).getD default := by
  induction defaults with
  | nil => rfl
  | cons entry defaults ih =>
    rw [filledWith, List.map_cons, List.lookup_cons, List.lookup_cons]
    by_cases hkey : key = entry.1
    · simp [hkey]
    · have hne : (key == entry.1) = false := by simpa using hkey
      rw [hne]
      exact ih

section Optional

variable {α : Type} {given : Entries} {name : String} {check : Value → Checked α}

/-- A value of the right type is taken as it is, and the default where none is given. -/
theorem optional_of_typed {encode : α → Value} (hcheck : ∀ a, check (encode a) = .sound a)
    (htyped : ∀ value, given.lookup name = some value → ∃ a, value = encode a) (default : α) :
    ∃ a, given.optional name default check = .sound a ∧
      encode a = (given.lookup name).getD (encode default) := by
  unfold optional
  cases hgiven : given.lookup name with
  | none => exact ⟨default, rfl, rfl⟩
  | some value =>
    obtain ⟨a, rfl⟩ := htyped value hgiven
    have hsound : (check (encode a)).within (.field name) = .sound a := by
      rw [hcheck]
      rfl
    exact ⟨a, hsound, rfl⟩

theorem optional_congr {given' : Entries} (h : given'.lookup name = given.lookup name)
    (default : α) : given'.optional name default check = given.optional name default check := by
  unfold optional
  rw [h]

end Optional

end Entries

theorem Value.checkInts_ofInts (codes : List Int) :
    checkInts (.list (codes.map .int)) = .sound codes := by
  have hitems (index : Nat) : Checked.items checkInt index (codes.map .int) = .sound codes := by
    induction codes generalizing index with
    | nil => rfl
    | cons code codes ih =>
      rw [List.map_cons, Checked.items, ih]
      rfl
  exact hitems 0

namespace LayoutNames

def SizePositive (given : Entries) : Prop :=
  ∀ size, given.lookup "region_size_bytes" = some (.int size) → 0 < size

variable {given : Entries} (hfits : given.Fits (entries {}))
include hfits

theorem optional_text (name default : String)
    (hdefault : (entries {}).lookup name = some (.text default)) :
    ∃ text, given.optional name default Value.checkText = .sound text ∧
      Value.text text = (given.lookup name).getD (.text default) :=
  @Entries.optional_of_typed String given name Value.checkText Value.text (fun _ => rfl)
    (fun value => hfits name _ value hdefault) default

omit hfits in
theorem checkRegionSize_int (size : Int) :
    checkRegionSize (.int size) =
      if size ≤ 0 then .problem (.rejected "region_size_bytes must be positive")
      else .sound (some size) := rfl

theorem optional_size :
    (SizePositive given → ∃ size,
      given.optional "region_size_bytes" none checkRegionSize = .sound size ∧
        (size.map Value.int).getD .null = (given.lookup "region_size_bytes").getD .null) ∧
    (¬ SizePositive given → ∃ issues,
      given.optional "region_size_bytes" none checkRegionSize = .flawed issues) := by
  have hdefault : (entries {}).lookup "region_size_bytes" = some .null := by
    simp [entries, List.lookup_cons]
  unfold Entries.optional SizePositive
  cases hgiven : given.lookup "region_size_bytes" with
  | none => exact ⟨fun _ => ⟨none, rfl, rfl⟩, fun h => (h (by simp)).elim⟩
  | some value =>
    rcases hfits _ _ _ hdefault hgiven with rfl | ⟨size, rfl⟩
    · exact ⟨fun _ => ⟨none, rfl, rfl⟩, fun h => (h (by simp)).elim⟩
    · dsimp only
      rw [checkRegionSize_int]
      by_cases hsize : size ≤ 0
      · rw [if_pos hsize]
        refine ⟨fun h => ?_, fun _ => ⟨_, rfl⟩⟩
        have := h size rfl
        omega
      · rw [if_neg hsize]
        refine ⟨fun _ => ⟨some size, rfl, rfl⟩, fun h => (h ?_).elim⟩
        rintro _ ⟨⟩
        omega

theorem check_of_fits :
    (SizePositive given → ∃ names, check given = .sound names ∧
      names.entries = (entries {}).filledWith given) ∧
    (¬ SizePositive given → ∃ issues, check given = .flawed issues) := by
  choose! text hsound hgiven using optional_text hfits
  obtain ⟨hpositive, hnot⟩ := optional_size hfits
  unfold check
  constructor
  · intro h
    obtain ⟨size, hsize, hfilled⟩ := hpositive h
    simp (disch := simp [entries, List.lookup_cons]) only [hsound, hsize]
    refine ⟨_, rfl, ?_⟩
    simp (disch := simp [entries, List.lookup_cons]) [entries, Entries.filledWith, hgiven, hfilled]
  · intro h
    obtain ⟨issues, hissues⟩ := hnot h
    simp (disch := simp [entries, List.lookup_cons]) only [hsound, hissues]
    exact ⟨issues, rfl⟩

omit hfits in
/-- The check of a section goes by the fields that the section has. -/
theorem check_congr {given' : Entries}
    (h : ∀ key, ((entries {}).lookup key).isSome → given'.lookup key = given.lookup key) :
    check given' = check given := by
  unfold check Entries.optional
  simp (disch := simp [entries, List.lookup_cons]) only [h]

end LayoutNames

namespace StateCodes

def NonNegative (entries : Entries) : Prop :=
  ∀ group (codes : List Int), entries.lookup group = some (.list (codes.map .int)) →
    ∀ code ∈ codes, 0 ≤ code

theorem nonNegative_entries_iff {codes : StateCodes} :
    NonNegative codes.entries ↔ ∀ code ∈ codes.codes, 0 ≤ code := by
  have hints {codes codes' : List Int} (h : codes.map Value.int = codes'.map Value.int) :
      codes = codes' := (List.map_inj_right fun _ _ => Value.int.inj).1 h
  constructor
  · intro h
    have htrash := h "trash" codes.trash (by simp [entries])
    have huncommitted := h "uncommitted" codes.uncommitted (by simp [entries, List.lookup_cons])
    have hempty := h "empty" codes.empty (by simp [entries, List.lookup_cons])
    have hlive := h "live" codes.live (by simp [entries, List.lookup_cons])
    simp only [StateCodes.codes, List.forall_mem_append]
    exact ⟨⟨⟨htrash, huncommitted⟩, hempty⟩, hlive⟩
  · intro h group given hgroup
    simp only [StateCodes.codes, List.forall_mem_append] at h
    obtain ⟨⟨⟨htrash, huncommitted⟩, hempty⟩, hlive⟩ := h
    have hmem := Entries.mem_of_lookup hgroup
    simp only [entries, List.mem_cons, Prod.mk.injEq, Value.list.injEq, List.not_mem_nil,
      or_false] at hmem
    rcases hmem with ⟨-, hcodes⟩ | ⟨-, hcodes⟩ | ⟨-, hcodes⟩ | ⟨-, hcodes⟩ <;>
      rw [hints hcodes] <;> assumption

theorem checkCodes_of_nonNegative {codes : StateCodes} (h : ∀ code ∈ codes.codes, 0 ≤ code) :
    checkCodes codes = .sound codes := by
  have hnone : codes.codes.find? (fun code => code < 0) = none := by
    simpa [List.find?_eq_none] using h
  rw [checkCodes, hnone]

theorem checkCodes_of_negative {codes : StateCodes} (h : ¬ ∀ code ∈ codes.codes, 0 ≤ code) :
    ∃ issues, checkCodes codes = .flawed issues := by
  cases hfound : codes.codes.find? (fun code => code < 0) with
  | none => exact (h (by simpa [List.find?_eq_none] using hfound)).elim
  | some code =>
    rw [checkCodes, hfound]
    exact ⟨_, rfl⟩

variable {given : Entries} (hfits : given.Fits (entries {}))
include hfits

theorem optional_group (name : String) (default : List Int)
    (hdefault : (entries {}).lookup name = some (.list (default.map .int))) :
    ∃ codes : List Int, given.optional name default Value.checkInts = .sound codes ∧
      Value.list (codes.map .int) = (given.lookup name).getD (.list (default.map .int)) :=
  @Entries.optional_of_typed (List Int) given name Value.checkInts
    (fun codes => .list (codes.map .int)) Value.checkInts_ofInts
    (fun value => hfits name _ value hdefault) default

/-- The section is refused for a negative code, given or defaulted, and otherwise filled in. -/
theorem check_of_fits :
    (NonNegative ((entries {}).filledWith given) → ∃ codes, check given = .sound codes ∧
      codes.entries = (entries {}).filledWith given) ∧
    (¬ NonNegative ((entries {}).filledWith given) → ∃ issues, check given = .flawed issues) := by
  choose! group hsound hgiven using optional_group hfits
  let default : StateCodes := {}
  let codes : StateCodes := ⟨group "trash" default.trash, group "uncommitted" default.uncommitted,
    group "empty" default.empty, group "live" default.live⟩
  have hfilled : codes.entries = (entries {}).filledWith given := by
    simp (disch := simp [entries, List.lookup_cons])
      [entries, Entries.filledWith, codes, default, hgiven]
  have hcheck : check given = checkCodes codes := by
    unfold check
    simp (disch := simp [entries, List.lookup_cons]) only [hsound]
    rfl
  rw [← hfilled, nonNegative_entries_iff, hcheck]
  exact ⟨fun h => ⟨codes, checkCodes_of_nonNegative h, rfl⟩, checkCodes_of_negative⟩

omit hfits in
theorem check_congr {given' : Entries}
    (h : ∀ key, ((entries {}).lookup key).isSome → given'.lookup key = given.lookup key) :
    check given' = check given := by
  unfold check Entries.optional
  simp (disch := simp [entries, List.lookup_cons]) only [h]

end StateCodes

end HeapProbe
