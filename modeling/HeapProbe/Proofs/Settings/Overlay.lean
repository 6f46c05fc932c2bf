import Mathlib
import HeapProbe.Proofs.Settings.Fields
import HeapProbe.Settings.Load

/-! # Settings laid over the defaults

Settings are the defaults with what is given laid over them, key by key and also within a section.
Of a table of the right types nothing counts but what stands at the known keys. So it does not
matter in which order two tables are laid over each other that have no known key in common, and a
file that is not there does as well as an empty one.
-/

namespace HeapProbe

namespace Entries

/-- The entries of a section; none if there is no such section. -/
def sectionAt (entries : Entries) (name : String) : Entries :=
  match entries.lookup name with
  | some (.table inner) => inner
  | _ => []

/-- The value that a path of keys leads to. -/
def at? (entries : Entries) : List String → Option Value
  | [] => none
  | [key] => entries.lookup key
  | name :: key :: rest => (entries.sectionAt name).at? (key :: rest)

def onto (upper lower : Entries) : Entries :=
  upper ++ lower.filter fun entry => (upper.lookup entry.1).isNone

end Entries

/-- A section laid over the entries of another; any other value replaces what was there. -/
def Value.onto (value : Value) (lower : Entries) : Value :=
  match value with
  | .table upper => .table (Entries.onto upper lower)
  | value => value

namespace Entries

/-- A table laid over another, section by section. -/
def overlay (upper lower : Entries) : Entries :=
  (upper.map fun entry => (entry.1, entry.2.onto (lower.sectionAt entry.1))) ++
    lower.filter fun entry => (upper.lookup entry.1).isNone

theorem forall_mem_iff {entries : Entries} {p : String → Prop} :
    (∀ entry ∈ entries, p entry.1) ↔ ∀ key, (entries.lookup key).isSome → p key := by
  constructor
  · intro h key hkey
    obtain ⟨entry, hmem, heq⟩ := List.lookup_isSome_iff.1 hkey
    rw [beq_iff_eq.1 heq]
    exact h entry hmem
  · intro h entry hmem
    exact h entry.1 (List.lookup_isSome_iff.2 ⟨entry, hmem, by simp⟩)

theorem lookup_filter {lower : Entries} {keep : String → Bool} (key : String) :
    (lower.filter fun entry => keep entry.1).lookup key =
      if keep key then lower.lookup key else none := by
  induction lower with
  | nil => simp
  | cons entry lower ih =>
    obtain ⟨name, value⟩ := entry
    rw [List.filter_cons, List.lookup_cons]
    by_cases hkey : key = name
    · subst hkey
      by_cases hkeep : keep key
      · simp [hkeep]
      · simp [hkeep, ih]
    · have hne : (key == name) = false := by simpa using hkey
      by_cases hkeep : keep name
      · simp [hkeep, List.lookup_cons, hne, ih]
      · simp [hkeep, hne, ih]

theorem lookup_map_value {upper : Entries} {f : String → Value → Value} (key : String) :
    (upper.map fun entry => (entry.1, f entry.1 entry.2)).lookup key =
      (upper.lookup key).map (f key) := by
  induction upper with
  | nil => rfl
  | cons entry upper ih =>
    rw [List.map_cons, List.lookup_cons, List.lookup_cons]
    by_cases hkey : key = entry.1
    · simp [hkey]
    · have hne : (key == entry.1) = false := by simpa using hkey
      rw [hne]
      exact ih

theorem nil_onto (lower : Entries) : onto [] lower = lower :=
  List.filter_eq_self.2 fun _ _ => rfl

theorem lookup_missing (upper lower : Entries) (key : String) :
    (lower.filter fun entry => (upper.lookup entry.1).isNone).lookup key =
      if (upper.lookup key).isNone then lower.lookup key else none :=
  @lookup_filter lower (fun name => (upper.lookup name).isNone) key

theorem lookup_onto (upper lower : Entries) (key : String) :
    (upper.onto lower).lookup key = (upper.lookup key).or (lower.lookup key) := by
  rw [onto, List.lookup_append, lookup_missing]
  cases upper.lookup key <;> simp

theorem lookup_overlay (upper lower : Entries) (key : String) :
    (upper.overlay lower).lookup key =
      ((upper.lookup key).map fun value => value.onto (lower.sectionAt key)).or
        (lower.lookup key) := by
  have hupper := @lookup_map_value upper (fun name value => value.onto (lower.sectionAt name)) key
  rw [overlay, List.lookup_append, lookup_missing, hupper]
  cases upper.lookup key <;> simp

theorem lookup_overlay_of_plain {upper lower : Entries} {key : String}
    (hplain : ∀ value, upper.lookup key = some value → ∀ inner, value.onto inner = value) :
    (upper.overlay lower).lookup key = (upper.lookup key).or (lower.lookup key) := by
  rw [lookup_overlay]
  cases hvalue : upper.lookup key with
  | none => rfl
  | some value => rw [Option.map_some, hplain value hvalue]

theorem sectionAt_overlay {upper lower : Entries} {name : String}
    (hupper : ∀ value, upper.lookup name = some value → ∃ inner, value = .table inner) :
    (upper.overlay lower).sectionAt name = (upper.sectionAt name).onto (lower.sectionAt name) := by
  have hlookup := lookup_overlay upper lower name
  cases hgiven : upper.lookup name with
  | none =>
    rw [hgiven] at hlookup
    have hnone : upper.sectionAt name = [] := by rw [sectionAt, hgiven]
    rw [hnone, nil_onto, sectionAt, hlookup]
    rfl
  | some value =>
    obtain ⟨inner, rfl⟩ := hupper value hgiven
    rw [hgiven] at hlookup
    have hinner : upper.sectionAt name = inner := by rw [sectionAt, hgiven]
    rw [hinner, sectionAt, hlookup]
    rfl

theorem Fits.onto {upper lower defaults : Entries} (h : upper.Fits defaults)
    (h' : lower.Fits defaults) : (upper.onto lower).Fits defaults := by
  intro key default value hdefault hvalue
  rw [lookup_onto] at hvalue
  rcases Option.or_eq_some_iff.1 hvalue with hupper | ⟨-, hlower⟩
  · exact h key default value hdefault hupper
  · exact h' key default value hdefault hlower

end Entries

theorem Value.Fits.onto {value default : Value} (h : value.Fits default) (lower : Entries) :
    (value.onto lower).Fits default := by
  cases value with
  | table upper =>
    cases default with
    | table inner => exact ⟨_, rfl⟩
    | _ => simp [Value.Fits] at h
  | _ => exact h

namespace Entries

theorem Fits.overlay {upper lower defaults : Entries} (h : upper.Fits defaults)
    (h' : lower.Fits defaults) : (upper.overlay lower).Fits defaults := by
  intro key default value hdefault hvalue
  rw [lookup_overlay] at hvalue
  rcases Option.or_eq_some_iff.1 hvalue with hupper | ⟨-, hlower⟩
  · obtain ⟨given, hgiven, rfl⟩ := Option.map_eq_some_iff.1 hupper
    exact (h key default given hdefault hgiven).onto _
  · exact h' key default value hdefault hlower

end Entries

namespace Settings

def keys : List (List String) :=
  ((LayoutNames.entries {}).map fun entry => ["layout", entry.1]) ++
    ((StateCodes.entries {}).map fun entry => ["states", entry.1]) ++ [["heap_name"], ["verbose"]]

/-- What stands at the known keys of a table has the types of the settings there. -/
structure Typed (raw : Entries) : Prop where
  top : raw.Fits (entries {})
  layout : (raw.sectionAt "layout").Fits (LayoutNames.entries {})
  states : (raw.sectionAt "states").Fits (StateCodes.entries {})

/-- The value that is given at a path, or else the default. -/
def inForce (raw : Entries) (path : List String) : Option Value :=
  (raw.at? path).or ((entries {}).at? path)

/-- Nothing is given that settings are refused for. -/
structure Acceptable (raw : Entries) : Prop where
  positive : ∀ size, raw.at? ["layout", "region_size_bytes"] = some (.int size) → 0 < size
  nonNegative : ∀ group ∈ ["trash", "uncommitted", "empty", "live"], ∀ codes : List Int,
    inForce raw ["states", group] = some (.list (codes.map .int)) → ∀ code ∈ codes, 0 ≤ code

theorem forall_mem_keys {p : List String → Prop} :
    (∀ path ∈ keys, p path) ↔
      (∀ key, ((LayoutNames.entries {}).lookup key).isSome → p ["layout", key]) ∧
      (∀ key, ((StateCodes.entries {}).lookup key).isSome → p ["states", key]) ∧
      p ["heap_name"] ∧ p ["verbose"] := by
  rw [← @Entries.forall_mem_iff _ fun key => p ["layout", key],
    ← @Entries.forall_mem_iff _ fun key => p ["states", key]]
  simp only [keys, List.forall_mem_append, List.forall_mem_map, and_assoc, List.forall_mem_cons,
    List.not_mem_nil, false_imp_iff, implies_true, and_true]

/-- A section is checked by itself; an empty one gives the default. -/
theorem optional_section {α : Type} {raw : Entries} {name className : String} {default : α}
    {check : Entries → Checked α} (hempty : check [] = .sound default)
    (hsection : ∀ value, raw.lookup name = some value → ∃ inner, value = .table inner) :
    raw.optional name default (Value.checkTable className check) =
      (check (raw.sectionAt name)).within (.field name) := by
  unfold Entries.optional Entries.sectionAt
  cases hgiven : raw.lookup name with
  | none =>
    dsimp only
    rw [hempty]
    rfl
  | some value =>
    obtain ⟨inner, rfl⟩ := hsection value hgiven
    rfl

/-- Within a section the value in force is the one that the section is filled in with. -/
theorem inForce_section {raw defaults : Entries} {name key : String}
    (hdefaults : (entries {}).sectionAt name = defaults) (hkey : (defaults.lookup key).isSome) :
    inForce raw [name, key] = (defaults.filledWith (raw.sectionAt name)).lookup key := by
  obtain ⟨default, hdefault⟩ := Option.isSome_iff_exists.1 hkey
  have hforce : inForce raw [name, key] =
      ((raw.sectionAt name).lookup key).or (((entries {}).sectionAt name).lookup key) := rfl
  rw [hforce, hdefaults, Entries.lookup_filledWith, hdefault]
  cases (raw.sectionAt name).lookup key <;> rfl

theorem inForce_top {raw : Entries} {key : String} {default value : Value}
    (hdefault : (entries {}).lookup key = some default)
    (hvalue : value = (raw.lookup key).getD default) : inForce raw [key] = some value := by
  have hforce : inForce raw [key] = (raw.lookup key).or ((entries {}).lookup key) := rfl
  rw [hforce, hdefault, Option.or_some, hvalue]

theorem sectionAt_layout (settings : Settings) :
    settings.entries.sectionAt "layout" = settings.layout.entries := by
  simp [entries, Entries.sectionAt]

theorem sectionAt_states (settings : Settings) :
    settings.entries.sectionAt "states" = settings.states.entries := by
  simp [entries, Entries.sectionAt, List.lookup_cons]

theorem lookup_heapName : (entries {}).lookup "heap_name" = some (.text "Shenandoah") := by
  simp [entries, List.lookup_cons]

theorem lookup_verbose : (entries {}).lookup "verbose" = some (.bool false) := by
  simp [entries, List.lookup_cons]

theorem acceptable_iff {raw : Entries} :
    Acceptable raw ↔ LayoutNames.SizePositive (raw.sectionAt "layout") ∧
      StateCodes.NonNegative ((StateCodes.entries {}).filledWith (raw.sectionAt "states")) := by
  constructor
  · intro h
    refine ⟨h.positive, fun group codes hgroup => ?_⟩
    have hknown : ((StateCodes.entries {}).lookup group).isSome := by
      have hsome := congrArg Option.isSome hgroup
      rwa [Entries.lookup_filledWith, Option.isSome_map] at hsome
    have hmem : group ∈ ["trash", "uncommitted", "empty", "live"] :=
      Entries.forall_mem_iff.1 (by simp [StateCodes.entries]) group hknown
    refine h.nonNegative group hmem codes ?_
    rw [inForce_section (sectionAt_states {}) hknown]
    exact hgroup
  · rintro ⟨hpositive, hcodes⟩
    refine ⟨hpositive, fun group hgroup codes hforce => hcodes group codes ?_⟩
    rw [← hforce, inForce_section (sectionAt_states {})]
    simp only [List.mem_cons, List.not_mem_nil, or_false] at hgroup
    rcases hgroup with rfl | rfl | rfl | rfl <;> simp [StateCodes.entries, List.lookup_cons]

section Typed

variable {raw : Entries} (htyped : Typed raw)
include htyped

theorem Typed.layout_table {value : Value} (hvalue : raw.lookup "layout" = some value) :
    ∃ inner, value = .table inner :=
  htyped.top "layout" (.table (LayoutNames.entries {})) value (by simp [entries]) hvalue

theorem Typed.states_table {value : Value} (hvalue : raw.lookup "states" = some value) :
    ∃ inner, value = .table inner :=
  htyped.top "states" (.table (StateCodes.entries {})) value (by simp [entries, List.lookup_cons])
    hvalue

theorem Typed.heapName_text {value : Value} (hvalue : raw.lookup "heap_name" = some value) :
    ∃ name, value = .text name :=
  htyped.top "heap_name" (.text "Shenandoah") value lookup_heapName hvalue

theorem Typed.verbose_bool {value : Value} (hvalue : raw.lookup "verbose" = some value) :
    ∃ verbose, value = .bool verbose :=
  htyped.top "verbose" (.bool false) value lookup_verbose hvalue

/-- A check of a table goes by its sections and by the two values beside them. -/
theorem check_eq :
    check raw = mk <$> (LayoutNames.check (raw.sectionAt "layout")).within (.field "layout")
      <*> (StateCodes.check (raw.sectionAt "states")).within (.field "states")
      <*> raw.optional "heap_name" "Shenandoah" Value.checkText
      <*> raw.optional "verbose" false Value.checkBool := by
  have hlayout := @optional_section LayoutNames raw "layout" "LayoutConfig" {}
    LayoutNames.check rfl fun _ => htyped.layout_table
  have hstates := @optional_section StateCodes raw "states" "StateCodesConfig" {}
    StateCodes.check rfl fun _ => htyped.states_table
  rw [← hlayout, ← hstates]
  rfl

theorem exists_heapName :
    ∃ name, raw.optional "heap_name" "Shenandoah" Value.checkText = .sound name ∧
      inForce raw ["heap_name"] = some (.text name) := by
  obtain ⟨name, hname, hgiven⟩ := @Entries.optional_of_typed String raw "heap_name"
    Value.checkText Value.text (fun _ => rfl) (fun _ => htyped.heapName_text) "Shenandoah"
  exact ⟨name, hname, inForce_top lookup_heapName hgiven⟩

theorem exists_verbose :
    ∃ verbose, raw.optional "verbose" false Value.checkBool = .sound verbose ∧
      inForce raw ["verbose"] = some (.bool verbose) := by
  obtain ⟨verbose, hverbose, hgiven⟩ := @Entries.optional_of_typed Bool raw "verbose"
    Value.checkBool Value.bool (fun _ => rfl) (fun _ => htyped.verbose_bool) false
  exact ⟨verbose, hverbose, inForce_top lookup_verbose hgiven⟩

theorem check_of_acceptable (hacceptable : Acceptable raw) :
    ∃ settings, check raw = .sound settings ∧
      ∀ path ∈ keys, settings.entries.at? path = inForce raw path := by
  obtain ⟨hpositive, hnonNegative⟩ := acceptable_iff.1 hacceptable
  obtain ⟨names, hnames, hnamesFilled⟩ := (LayoutNames.check_of_fits htyped.layout).1 hpositive
  obtain ⟨codes, hcodes, hcodesFilled⟩ := (StateCodes.check_of_fits htyped.states).1 hnonNegative
  obtain ⟨name, hname, hnameForce⟩ := exists_heapName htyped
  obtain ⟨verbose, hverbose, hverboseForce⟩ := exists_verbose htyped
  refine ⟨⟨names, codes, name, verbose⟩, ?_, forall_mem_keys.2 ⟨?_, ?_, ?_, ?_⟩⟩
  · rw [check_eq htyped, hnames, hcodes, hname, hverbose]
    rfl
  · intro key hkey
    rw [inForce_section (sectionAt_layout {}) hkey, ← hnamesFilled]
    exact congrArg (fun inner => inner.lookup key) (sectionAt_layout _)
  · intro key hkey
    rw [inForce_section (sectionAt_states {}) hkey, ← hcodesFilled]
    exact congrArg (fun inner => inner.lookup key) (sectionAt_states _)
  · rw [hnameForce]
    simp [entries, Entries.at?, List.lookup_cons]
  · rw [hverboseForce]
    simp [entries, Entries.at?, List.lookup_cons]

theorem check_of_not_acceptable (hnot : ¬ Acceptable raw) :
    ∃ issues, check raw = .flawed issues := by
  obtain ⟨hlayout, hnotLayout⟩ := LayoutNames.check_of_fits htyped.layout
  obtain ⟨-, hnotStates⟩ := StateCodes.check_of_fits htyped.states
  obtain ⟨name, hname, -⟩ := exists_heapName htyped
  obtain ⟨verbose, hverbose, -⟩ := exists_verbose htyped
  rw [check_eq htyped, hname, hverbose]
  rw [acceptable_iff] at hnot
  by_cases hpositive : LayoutNames.SizePositive (raw.sectionAt "layout")
  · obtain ⟨names, hnames, -⟩ := hlayout hpositive
    obtain ⟨issues, hissues⟩ := hnotStates fun hcodes => hnot ⟨hpositive, hcodes⟩
    rw [hnames, hissues]
    exact ⟨_, rfl⟩
  · obtain ⟨issues, hissues⟩ := hnotLayout hpositive
    rw [hissues]
    cases StateCodes.check (raw.sectionAt "states") with
    | sound codes => exact ⟨_, rfl⟩
    | flawed more => exact ⟨_, rfl⟩

theorem acceptable_of_check {settings : Settings} (hsound : check raw = .sound settings) :
    Acceptable raw := by
  by_contra hnot
  obtain ⟨issues, hflawed⟩ := check_of_not_acceptable htyped hnot
  rw [hsound] at hflawed
  cases hflawed

theorem Typed.overlay {other : Entries} (hother : Typed other) : Typed (raw.overlay other) where
  top := htyped.top.overlay hother.top
  layout := by
    rw [Entries.sectionAt_overlay fun _ => htyped.layout_table]
    exact htyped.layout.onto hother.layout
  states := by
    rw [Entries.sectionAt_overlay fun _ => htyped.states_table]
    exact htyped.states.onto hother.states

/-- Of two tables laid over each other the upper one comes first at every known key. -/
theorem at?_overlay (other : Entries) :
    ∀ path ∈ keys, (raw.overlay other).at? path = (raw.at? path).or (other.at? path) := by
  refine forall_mem_keys.2 ⟨fun key _ => ?_, fun key _ => ?_, ?_, ?_⟩
  · have hsection := @Entries.sectionAt_overlay raw other "layout" fun _ => htyped.layout_table
    exact (congrArg (fun inner => inner.lookup key) hsection).trans (Entries.lookup_onto _ _ key)
  · have hsection := @Entries.sectionAt_overlay raw other "states" fun _ => htyped.states_table
    exact (congrArg (fun inner => inner.lookup key) hsection).trans (Entries.lookup_onto _ _ key)
  · refine Entries.lookup_overlay_of_plain fun value hvalue => ?_
    obtain ⟨name, rfl⟩ := htyped.heapName_text hvalue
    exact fun _ => rfl
  · refine Entries.lookup_overlay_of_plain fun value hvalue => ?_
    obtain ⟨verbose, rfl⟩ := htyped.verbose_bool hvalue
    exact fun _ => rfl

/-- Only what stands at the known keys counts. -/
theorem check_congr {other : Entries} (hother : Typed other)
    (h : ∀ path ∈ keys, other.at? path = raw.at? path) : check other = check raw := by
  obtain ⟨hlayout, hstates, hname, hverbose⟩ := forall_mem_keys.1 h
  rw [check_eq hother, check_eq htyped, LayoutNames.check_congr hlayout,
    StateCodes.check_congr hstates, Entries.optional_congr hname,
    Entries.optional_congr hverbose]

/-- Two tables without a known key in common may be laid over each other either way. -/
theorem check_overlay_comm {other : Entries} (hother : Typed other)
    (hdisjoint : ∀ path ∈ keys, raw.at? path = none ∨ other.at? path = none) :
    check (raw.overlay other) = check (other.overlay raw) := by
  refine check_congr (hother.overlay htyped) (htyped.overlay hother) fun path hpath => ?_
  rw [at?_overlay htyped other path hpath, at?_overlay hother raw path hpath]
  rcases hdisjoint path hpath with hnone | hnone <;> simp [hnone]

end Typed

theorem load_eq_ok_iff {folder : Folder} {path : Option String} {bytes : ByteArray} {text : String}
    {raw : Entries} (hfind : folder.find (fileName path) = .ok (some (.file bytes)))
    (htext : String.fromUTF8? bytes = some text) (hread : Toml.read text = .ok raw)
    (settings : Settings) : load folder path = .ok settings ↔ check raw = .sound settings := by
  have hload : load folder path = ofEntry (some (.file bytes)) := by
    unfold load
    rw [hfind]
    rfl
  simp only [hload, ofEntry, htext, hread]
  cases check raw <;> simp

theorem ofEntry_empty : ofEntry (some (.file .empty)) = .ok {} := by
  have htext : String.fromUTF8? .empty = some "" := rfl
  have hread : Toml.read "" = .ok [] := by cbv
  simp only [ofEntry, htext, hread]
  rfl

theorem load_of_missing {folder : Folder} {path : Option String}
    (h : folder.find (fileName path) = .ok none ∨
      folder.find (fileName path) = .ok (some (.file .empty))) : load folder path = .ok {} := by
  unfold load
  rcases h with h | h
  · rw [h]
    rfl
  · rw [h]
    exact ofEntry_empty

section Reader

variable {reader : TomlReader} (hfound : reader.found)
include hfound

theorem loadWith_of_found (folder : Folder) (path : Option String) :
    loadWith reader folder path = (load folder path).mapError .load := if_pos hfound

theorem loadWith_eq_ok_iff {folder : Folder} {path : Option String} {settings : Settings} :
    loadWith reader folder path = .ok settings ↔ load folder path = .ok settings := by
  rw [loadWith_of_found hfound]
  cases load folder path <;> simp [Except.mapError]

theorem loadWith_congr {folder : Folder} {path path' : Option String}
    (h : fileName path = fileName path') :
    loadWith reader folder path = loadWith reader folder path' := by
  simp only [loadWith_of_found hfound, load, h]

end Reader

/-- What a table of the right types is accepted for, what is in force then, and that nothing else has
a part in it. With something to read TOML with, files load what their tables give; without it the
defaults are loaded if there is no path, and any path is refused. -/
theorem check_overlays_defaults {raw : Entries} (htyped : Typed raw) :
    ((∃ settings, check raw = .sound settings) ↔ Acceptable raw) ∧
    (∀ settings, check raw = .sound settings →
      ∀ path ∈ keys, settings.entries.at? path = inForce raw path) ∧
    (∀ other, Typed other →
      ((∀ path ∈ keys, other.at? path = raw.at? path) → check other = check raw) ∧
      (∀ path ∈ keys, (raw.overlay other).at? path = (raw.at? path).or (other.at? path)) ∧
      ((∀ path ∈ keys, raw.at? path = none ∨ other.at? path = none) →
        check (raw.overlay other) = check (other.overlay raw))) ∧
    (∀ reader : TomlReader, reader.found →
      (∀ (folder : Folder) path bytes text, folder.find (fileName path) = .ok (some (.file bytes)) →
        String.fromUTF8? bytes = some text → Toml.read text = .ok raw →
        ∀ settings, loadWith reader folder path = .ok settings ↔ check raw = .sound settings) ∧
      (∀ folder, loadWith reader folder none = loadWith reader folder (some "heapscope.toml") ∧
        loadWith reader folder (some "") = loadWith reader folder (some "heapscope.toml")) ∧
      ∀ (folder folder' : Folder) path path', folder.find (fileName path) = .ok none →
        folder'.find (fileName path') = .ok (some (.file .empty)) →
        loadWith reader folder path = loadWith reader folder' path' ∧
          loadWith reader folder path = .ok {}) ∧
    ∀ (reader : TomlReader) folder, reader.found = false →
      loadWith reader folder none = .ok {} ∧
        ∀ path, loadWith reader folder (some path) = .error .noReader := by
  refine ⟨⟨?_, ?_⟩, ?_, fun other hother => ⟨check_congr htyped hother, at?_overlay htyped other,
    check_overlay_comm htyped hother⟩, fun reader hfound => ⟨?_, ?_, ?_⟩, ?_⟩
  · rintro ⟨settings, hsound⟩
    exact acceptable_of_check htyped hsound
  · intro hacceptable
    obtain ⟨settings, hsound, -⟩ := check_of_acceptable htyped hacceptable
    exact ⟨settings, hsound⟩
  · intro settings hsound
    obtain ⟨found, hfound, hforce⟩ :=
      check_of_acceptable htyped (acceptable_of_check htyped hsound)
    rw [hsound] at hfound
    cases hfound
    exact hforce
  · intro folder path bytes text hfind htext hread settings
    rw [loadWith_eq_ok_iff hfound]
    exact load_eq_ok_iff hfind htext hread settings
  · exact fun folder => ⟨loadWith_congr hfound rfl, loadWith_congr hfound rfl⟩
  · intro folder folder' path path' hmissing hempty
    rw [loadWith_of_found hfound, loadWith_of_found hfound, load_of_missing (.inl hmissing),
      load_of_missing (.inr hempty)]
    exact ⟨rfl, rfl⟩
  · intro reader folder hnone
    simp [loadWith, hnone]

/-- A table with a section given in part and keys that have no meaning. -/
def partialTable : Entries :=
  [("indent", .int 4), ("layout", .table [("heap_type", .text "G1CollectedHeap"), ("hue", .int 3)])]

def trashTable : Entries :=
  [("states", .table [("trash", .list [.int 7])]), ("verbose", .bool true)]

theorem typed_partialTable : Typed partialTable where
  top := Entries.fits_of_forall_mem (by simp [partialTable, entries, List.lookup_cons, Value.Fits])
  layout := Entries.fits_of_forall_mem
    (by simp [partialTable, Entries.sectionAt, LayoutNames.entries, List.lookup_cons, Value.Fits])
  states := Entries.fits_of_forall_mem (by simp [partialTable, Entries.sectionAt, List.lookup_cons])

theorem typed_trashTable : Typed trashTable where
  top := Entries.fits_of_forall_mem (by simp [trashTable, entries, List.lookup_cons, Value.Fits])
  layout := Entries.fits_of_forall_mem (by simp [trashTable, Entries.sectionAt, List.lookup_cons])
  states := Entries.fits_of_forall_mem (by
    have htrash : ∃ codes : List Int, [Value.int 7] = codes.map .int := ⟨[7], rfl⟩
    simpa [trashTable, Entries.sectionAt, StateCodes.entries, Value.Fits] using htrash)

def partialText : String := "indent = 4\n[layout]\nheap_type = \"G1CollectedHeap\"\nhue = 3\n"

def partialFolder : Folder := [("g1", .file partialText.toUTF8)]

theorem partialTable_overlaid :
    Typed partialTable ∧ Typed trashTable ∧
      check (partialTable.overlay trashTable) = check (trashTable.overlay partialTable) ∧
      ∃ settings, loadWith .library partialFolder (some "g1") = .ok settings ∧
        settings.entries.at? ["layout", "heap_type"] = some (.text "G1CollectedHeap") ∧
        settings.entries.at? ["layout", "used_field"] = some (.text "_used") := by
  obtain ⟨-, hforce, hother, hfound, -⟩ := check_overlays_defaults typed_partialTable
  have hload := (hfound .library rfl).1
  have hfind : partialFolder.find (fileName (some "g1")) =
      .ok (some (.file partialText.toUTF8)) := by cbv
  have htext : String.fromUTF8? partialText.toUTF8 = some partialText := by rfl
  have hread : Toml.read partialText = .ok partialTable := by cbv
  have hsound : check partialTable =
    .sound { layout := { heapType := "G1CollectedHeap" } } := rfl
  refine ⟨typed_partialTable, typed_trashTable, (hother _ typed_trashTable).2.2 (by decide),
    _, (hload _ _ _ _ hfind htext hread _).2 hsound, ?_, ?_⟩
  · exact hforce _ hsound ["layout", "heap_type"] (by decide)
  · exact hforce _ hsound ["layout", "used_field"] (by decide)

end Settings

end HeapProbe
