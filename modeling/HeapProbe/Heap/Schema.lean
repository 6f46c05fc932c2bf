import HeapProbe.Check.Field
import HeapProbe.Heap.Report
import HeapProbe.Settings.Schema

/-! # The form of layouts and reports

Layouts and reports can be made from entries. All their fields are integers and have to be there,
but for the version of a layout, which has a default. A layout cannot be changed once it is made.
-/

namespace HeapProbe

def HeapLayout.check (entries : Entries) : Checked HeapLayout :=
  let offset name := entries.required name Value.checkInt
  mk <$> entries.optional "version" layoutVersion Value.checkInt
    <*> offset "num_regions" <*> offset "used" <*> offset "committed" <*> offset "regions"
    <*> offset "reserved_start" <*> offset "reserved_word_size"

def HeapLayout.entries (layout : HeapLayout) : Entries :=
  [("version", .int layout.version), ("num_regions", .int layout.numRegions),
    ("used", .int layout.used), ("committed", .int layout.committed),
    ("regions", .int layout.regions), ("reserved_start", .int layout.reservedStart),
    ("reserved_word_size", .int layout.reservedWordSize)]

def RegionLayout.check (entries : Entries) : Checked RegionLayout :=
  let offset name := entries.required name Value.checkInt
  mk <$> entries.optional "version" layoutVersion Value.checkInt
    <*> offset "state" <*> offset "bottom" <*> offset "end" <*> offset "top"

def RegionLayout.entries (layout : RegionLayout) : Entries :=
  [("version", .int layout.version), ("state", .int layout.state), ("bottom", .int layout.bottom),
    ("end", .int layout.limit), ("top", .int layout.top)]

def HeapReport.checkEntries (entries : Entries) : Checked HeapReport :=
  let counter name := entries.required name Value.checkInt
  (fun numRegions used committed range => ⟨numRegions, used, committed, range.1, range.2⟩)
    <$> counter "num_regions" <*> counter "used" <*> counter "committed"
    <*> entries.required "address_range" Value.checkIntPair

def HeapReport.entries (report : HeapReport) : Entries :=
  [("num_regions", .int report.numRegions), ("used", .int report.used),
    ("committed", .int report.committed),
    ("address_range", .list [.int report.start, .int report.limit])]

inductive AssignFault where
  | frozen (issue : Issue)
  | readOnly
  | unknownField
  deriving DecidableEq

/-- What a record tells about the entries it was made from, under names of its own. -/
def derivedNames : List String := ["model_extra", "model_fields_set"]

inductive RecordKind where
  | settings
  | layoutNames
  | stateCodes
  | heapLayout
  | regionLayout
  | report
  deriving DecidableEq

namespace RecordKind

/-- Makes a record from entries and gives its own entries back, defaults included. -/
def complete (kind : RecordKind) (entries : Entries) : Checked Entries :=
  match kind with
  | .settings => Settings.entries <$> Settings.check entries
  | .layoutNames => LayoutNames.entries <$> LayoutNames.check entries
  | .stateCodes => StateCodes.entries <$> StateCodes.check entries
  | .heapLayout => HeapLayout.entries <$> HeapLayout.check entries
  | .regionLayout => RegionLayout.entries <$> RegionLayout.check entries
  | .report => HeapReport.entries <$> HeapReport.checkEntries entries

def isFrozen (kind : RecordKind) : Bool := kind = .heapLayout || kind = .regionLayout

/-- Gives a field of a record another value, which is not checked. A name that starts with an
underscore is no field: what it is given is kept out of the record, even of one that cannot be
changed. -/
def assign (kind : RecordKind) (entries : Entries) (field : String) (value : Value) :
    Except AssignFault Entries :=
  if field.startsWith "_" then .ok entries
  else if kind.isFrozen then .error (.frozen ⟨[.field field], .frozen⟩)
  else if field ∈ derivedNames then .error .readOnly
  else
    match entries.assign? field value with
    | some entries => .ok entries
    | none => .error .unknownField

end RecordKind

end HeapProbe
