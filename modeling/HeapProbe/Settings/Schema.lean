import HeapProbe.Check.Field
import HeapProbe.Settings.Basic

/-! # The form of settings

Settings are checked field by field. A field that is absent keeps its default, also within a section
that is given in part, and a field that has no meaning is passed over. Writing settings as entries
and checking those gives the same settings back.
-/

namespace HeapProbe

namespace LayoutNames

def checkRegionSize (value : Value) : Checked (Option Int) :=
  value.checkIntOrNull.andThen fun size =>
    match size with
    | some n =>
      if n ≤ 0 then .problem (.rejected "region_size_bytes must be positive") else .sound size
    | none => .sound size

def check (entries : Entries) : Checked LayoutNames :=
  let default : LayoutNames := {}
  let text name default := entries.optional name default Value.checkText
  mk <$> text "heap_type" default.heapType
    <*> text "num_regions_field" default.numRegionsField
    <*> text "used_field" default.usedField
    <*> text "committed_field" default.committedField
    <*> text "regions_field" default.regionsField
    <*> text "reserved_field" default.reservedField
    <*> text "mem_region_type" default.memRegionType
    <*> text "mem_region_start_field" default.memRegionStartField
    <*> text "mem_region_word_size_field" default.memRegionWordSizeField
    <*> text "region_type" default.regionType
    <*> text "region_state_field" default.regionStateField
    <*> text "region_bottom_field" default.regionBottomField
    <*> text "region_end_field" default.regionEndField
    <*> text "region_top_field" default.regionTopField
    <*> text "heap_symbol" default.heapSymbol
    <*> text "region_size_symbol" default.regionSizeSymbol
    <*> entries.optional "region_size_bytes" default.regionSizeBytes checkRegionSize

def entries (names : LayoutNames) : Entries :=
  [("heap_type", .text names.heapType),
    ("num_regions_field", .text names.numRegionsField),
    ("used_field", .text names.usedField),
    ("committed_field", .text names.committedField),
    ("regions_field", .text names.regionsField),
    ("reserved_field", .text names.reservedField),
    ("mem_region_type", .text names.memRegionType),
    ("mem_region_start_field", .text names.memRegionStartField),
    ("mem_region_word_size_field", .text names.memRegionWordSizeField),
    ("region_type", .text names.regionType),
    ("region_state_field", .text names.regionStateField),
    ("region_bottom_field", .text names.regionBottomField),
    ("region_end_field", .text names.regionEndField),
    ("region_top_field", .text names.regionTopField),
    ("heap_symbol", .text names.heapSymbol),
    ("region_size_symbol", .text names.regionSizeSymbol),
    ("region_size_bytes", (names.regionSizeBytes.map Value.int).getD .null)]

end LayoutNames

namespace StateCodes

def codes (codes : StateCodes) : List Int :=
  codes.trash ++ codes.uncommitted ++ codes.empty ++ codes.live

/-- No code may be negative; the first one that is gets the blame. -/
def checkCodes (codes : StateCodes) : Checked StateCodes :=
  match codes.codes.find? fun code => code < 0 with
  | some code => .problem (.rejected s!"state code {decimal code} must be non-negative")
  | none => .sound codes

def check (entries : Entries) : Checked StateCodes :=
  let default : StateCodes := {}
  let group name default := entries.optional name default Value.checkInts
  (mk <$> group "trash" default.trash
    <*> group "uncommitted" default.uncommitted
    <*> group "empty" default.empty
    <*> group "live" default.live).andThen checkCodes

def entries (codes : StateCodes) : Entries :=
  let group (codes : List Int) : Value := .list (codes.map Value.int)
  [("trash", group codes.trash), ("uncommitted", group codes.uncommitted),
    ("empty", group codes.empty), ("live", group codes.live)]

end StateCodes

namespace Settings

def check (entries : Entries) : Checked Settings :=
  let default : Settings := {}
  mk <$> entries.optional "layout" default.layout
      (Value.checkTable "LayoutConfig" LayoutNames.check)
    <*> entries.optional "states" default.states
      (Value.checkTable "StateCodesConfig" StateCodes.check)
    <*> entries.optional "heap_name" default.heapName Value.checkText
    <*> entries.optional "verbose" default.verbose Value.checkBool

def entries (settings : Settings) : Entries :=
  [("layout", .table settings.layout.entries), ("states", .table settings.states.entries),
    ("heap_name", .text settings.heapName), ("verbose", .bool settings.verbose)]

end Settings

end HeapProbe
