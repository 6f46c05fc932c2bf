import HeapProbe.Proofs.Target.Lookup
import Mathlib.Data.List.Forall2

/-! # Where a global variable is

A name is looked up in two places, the debug information and the symbol table, and in both of them
it can be known without being loaded. What is not loaded is passed over and not taken for an answer:
an unloaded variable leaves the symbols to decide, and an unloaded symbol the next one.
-/

namespace HeapProbe

open Probe

namespace SymbolEntry

variable {entry : SymbolEntry} {searched : String} {symbol : Symbol}

/-- The entry is of a symbol that the debugger vouches for and has loaded. -/
def Loaded (entry : SymbolEntry) : Prop := entry.valid ∧ entry.address ≠ unloadedAddress

instance (entry : SymbolEntry) : Decidable entry.Loaded := inferInstanceAs (Decidable (_ ∧ _))

/-- What a search shows of an entry. A symbol without a name of its own goes by the name that was
searched for, and a module that is not known has the empty name. -/
structure ShownAs (searched : String) (entry : SymbolEntry) (symbol : Symbol) : Prop where
  address : symbol.address = entry.address
  named : ∀ name, entry.name = some name → name ≠ "" → symbol.name = name
  unnamed : entry.name = none ∨ entry.name = some "" → symbol.name = searched
  homed : ∀ name, entry.moduleValid → entry.moduleName = some name → symbol.moduleName = name
  homeless : entry.moduleValid = false ∨ entry.moduleName = none → symbol.moduleName = ""

theorem ShownAs.unique {other : Symbol} (h : entry.ShownAs searched symbol)
    (h' : entry.ShownAs searched other) : symbol = other := by
  have hname : symbol.name = other.name := by
    cases hn : entry.name with
    | none => rw [h.unnamed (.inl hn), h'.unnamed (.inl hn)]
    | some name =>
      by_cases hempty : name = ""
      · subst hempty
        rw [h.unnamed (.inr hn), h'.unnamed (.inr hn)]
      · rw [h.named name hn hempty, h'.named name hn hempty]
  have hmodule : symbol.moduleName = other.moduleName := by
    cases hv : entry.moduleValid with
    | false => rw [h.homeless (.inl hv), h'.homeless (.inl hv)]
    | true =>
      cases hm : entry.moduleName with
      | none => rw [h.homeless (.inr hm), h'.homeless (.inr hm)]
      | some name => rw [h.homed name hv hm, h'.homed name hv hm]
  have haddress : symbol.address = other.address := h.address.trans h'.address.symm
  cases symbol
  cases other
  simp_all

theorem symbol?_eq_none_iff : entry.symbol? searched = none ↔ ¬ entry.Loaded := by
  simp [symbol?, Loaded]

theorem shownAs_of_symbol? (h : entry.symbol? searched = some symbol) :
    entry.ShownAs searched symbol := by
  unfold symbol? at h
  split at h
  · cases h
    constructor
    case address => rfl
    case named =>
      intro name hn hempty
      simp only [hn]
    case unnamed =>
      rintro (hn | hn) <;> simp [hn]
    case homed =>
      intro name hv hm
      simp [hv, hm]
    case homeless =>
      rintro (hv | hm)
      · simp [hv]
      · simp [hm]
  · cases h

theorem symbol?_eq_some_iff :
    entry.symbol? searched = some symbol ↔ entry.Loaded ∧ entry.ShownAs searched symbol := by
  constructor
  · intro h
    refine ⟨?_, shownAs_of_symbol? h⟩
    by_contra hunloaded
    rw [symbol?_eq_none_iff.2 hunloaded] at h
    cases h
  · rintro ⟨hloaded, hshown⟩
    cases h : entry.symbol? searched with
    | none => exact absurd hloaded (symbol?_eq_none_iff.1 h)
    | some other => rw [(shownAs_of_symbol? h).unique hshown]

/-- A search shows the loaded entries, each of them once and in the order of the table. -/
theorem forall₂_shownAs (searched : String) (entries : List SymbolEntry) :
    List.Forall₂ (ShownAs searched) (entries.filter fun entry => entry.Loaded)
      (entries.filterMap (symbol? searched)) := by
  induction entries with
  | nil => exact .nil
  | cons entry rest ih =>
    cases h : entry.symbol? searched with
    | none =>
      have hunloaded : ¬ entry.Loaded := symbol?_eq_none_iff.1 h
      rw [List.filter_cons_of_neg (by simpa using hunloaded), List.filterMap_cons_none h]
      exact ih
    | some symbol =>
      obtain ⟨hloaded, hshown⟩ := symbol?_eq_some_iff.1 h
      rw [List.filter_cons_of_pos (by simpa using hloaded), List.filterMap_cons_some h]
      exact .cons hshown ih

theorem address_ne_of_mem {entries : List SymbolEntry}
    (h : symbol ∈ entries.filterMap (symbol? searched)) : symbol.address ≠ unloadedAddress := by
  obtain ⟨entry, -, hsymbol⟩ := List.mem_filterMap.1 h
  obtain ⟨hloaded, hshown⟩ := symbol?_eq_some_iff.1 hsymbol
  rw [hshown.address]
  exact hloaded.2

end SymbolEntry

def loaded? (address : Int) : Option Int := if address = unloadedAddress then none else some address

/-- The debug information is asked first, and the symbols when it has nothing loaded. -/
theorem Image.globalAddress?_eq_or (image : Image) (name : String) :
    image.globalAddress? name = ((image.globals.lookup name).bind loaded?).or
      ((image.loadedSymbols name).head?.map Symbol.address) := by
  unfold globalAddress?
  cases image.globals.lookup name with
  | none => rfl
  | some address => by_cases h : address = unloadedAddress <;> simp [loaded?, h]

namespace Target

variable (target : Target) (host : Host) (name : String)

def entriesOn : List SymbolEntry :=
  (((target.imageOn host).map Image.symbols).getD []).filter fun entry => entry.key = name

def variableOn : Option Int :=
  (target.imageOn host).bind fun image => image.globals.lookup name

theorem filterMap_entriesOn :
    (target.entriesOn host name).filterMap (SymbolEntry.symbol? name) =
      ((target.imageOn host).map fun image => image.loadedSymbols name).getD [] := by
  unfold entriesOn
  cases target.imageOn host <;> rfl

theorem globalAddress?_on :
    ((target.imageOn host).bind fun image => image.globalAddress? name) =
      ((target.variableOn host name).bind loaded?).or
        (((target.entriesOn host name).filterMap (SymbolEntry.symbol? name)).head?.map
          Symbol.address) := by
  rw [filterMap_entriesOn]
  unfold variableOn
  cases target.imageOn host with
  | none => rfl
  | some image => exact image.globalAddress?_eq_or name

/-- What the two lookups of a name give, the symbols and the place of the variable, given what the
debugger has for it: perhaps a variable, and entries of the symbol table. -/
structure Locates (name : String) (global? : Option Int) (entries : List SymbolEntry)
    (symbols : List Symbol) (place? : Option Int) : Prop where
  /-- Every loaded entry is shown once, in the debugger's order, and nothing else is. -/
  shown : List.Forall₂ (SymbolEntry.ShownAs name) (entries.filter fun entry => entry.Loaded) symbols
  /-- The variable comes first, if it is loaded; after it the first symbol. -/
  place : place? = (global?.bind loaded?).or (symbols.head?.map Symbol.address)
  symbol_loaded : ∀ symbol ∈ symbols, symbol.address ≠ unloadedAddress
  place_loaded : place? ≠ some unloadedAddress
  nowhere : place? = none ↔
    (∀ address, global? = some address → address = unloadedAddress) ∧
      ∀ entry ∈ entries, ¬ entry.Loaded

theorem bind_loaded?_eq_none_iff {global? : Option Int} :
    global?.bind loaded? = none ↔
      ∀ address, global? = some address → address = unloadedAddress := by
  cases global? <;> simp [loaded?]

theorem bind_loaded?_ne (global? : Option Int) :
    global?.bind loaded? ≠ some unloadedAddress := by
  intro h
  obtain ⟨address, -, hloaded⟩ := Option.bind_eq_some_iff.1 h
  unfold loaded? at hloaded
  split at hloaded
  · cases hloaded
  · next hne => exact hne (Option.some.inj hloaded)

theorem locates (global? : Option Int) (entries : List SymbolEntry) :
    let symbols := entries.filterMap (SymbolEntry.symbol? name)
    Locates name global? entries symbols
      ((global?.bind loaded?).or (symbols.head?.map Symbol.address)) := by
  intro symbols
  have hloaded : ∀ symbol ∈ symbols, symbol.address ≠ unloadedAddress := fun symbol hs =>
    SymbolEntry.address_ne_of_mem hs
  constructor
  case shown => exact SymbolEntry.forall₂_shownAs name entries
  case place => rfl
  case symbol_loaded => exact hloaded
  case place_loaded =>
    intro h
    rcases Option.or_eq_some_iff.1 h with hvariable | ⟨-, hsymbol⟩
    · exact bind_loaded?_ne global? hvariable
    · obtain ⟨symbol, hhead, haddress⟩ := Option.map_eq_some_iff.1 hsymbol
      exact hloaded symbol (List.mem_of_mem_head? hhead) haddress
  case nowhere =>
    rw [Option.or_eq_none_iff, bind_loaded?_eq_none_iff, Option.map_eq_none_iff,
      List.head?_eq_none_iff, List.filterMap_eq_nil_iff]
    simp only [SymbolEntry.symbol?_eq_none_iff]

end Target

/-- **Debug information first, and nothing unloaded.** With the debugger's bindings loaded, for
every target and every name: the search for symbols and the search for the variable both end well,
without a trace but for their calls, and give what `Locates` says. The lookup that a session makes
then has the place for an answer; it fails if there is none, with the fault that blames the name,
and never otherwise. -/
theorem Target.lookups_locate {context : Context} (hb : context.host.bindings) (target : Target)
    (name : String) :
    ∃ symbols place?,
      Locates name (target.variableOn context.host name) (target.entriesOn context.host name)
        symbols place? ∧
      target.findSymbols name context = .ok symbols (context.note [.findSymbols name] []) ∧
      target.findGlobal name context =
        .ok place? (context.note (globalCalls (target.imageOn context.host) name) []) ∧
      (∀ address, outcome (target.resolver.lookupSymbol name) context = .ok address ↔
        place? = some address) ∧
      (∀ fault, outcome (target.resolver.lookupSymbol name) context = .error fault ↔
        fault = .missing name [] none ∧
          (∀ address, target.variableOn context.host name = some address →
            address = unloadedAddress) ∧
          ∀ entry ∈ target.entriesOn context.host name, ¬ entry.Loaded) := by
  have hlocates := locates name (target.variableOn context.host name)
    (target.entriesOn context.host name)
  have hsymbols := (@Finds.findSymbols (context.scene 0) hb target name).ok rfl
  have hglobal := (@Finds.findGlobal (context.scene 0) hb target name).ok rfl
  have hlookup : outcome (target.resolver.lookupSymbol name) context = _ :=
    (@Finds.lookupSymbol (context.scene 0) hb target name).outcome_eq rfl
  simp only [Context.scene, ← filterMap_entriesOn] at hsymbols
  simp only [Context.scene, globalAddress?_on] at hglobal
  simp only [Context.scene, symbolFinding, globalAddress?_on] at hlookup
  refine ⟨_, _, hlocates, hsymbols, hglobal, fun address => ?_, fun fault => ?_⟩
  · rw [hlookup]
    cases ((target.variableOn context.host name).bind loaded?).or _ <;> simp
  · rw [hlookup, ← hlocates.nowhere]
    cases ((target.variableOn context.host name).bind loaded?).or _ <;> simp [eq_comm]

/-- The entries of a symbol that the debugger does not vouch for, of one that is not loaded, and of
two that are; the first of these has no name of its own and no module. -/
def scatteredEntries : List SymbolEntry :=
  [{ key := "heap", name := some "gone", address := 0x6000, valid := false },
    { key := "heap", name := some "aside", address := unloadedAddress },
    { key := "heap", name := none, address := 0x7000, moduleName := none },
    { key := "heap", name := some "copy", address := 0x8000 }]

/-- The context of a program whose debug information has the variable without a place. -/
def scatteredContext : Context :=
  { host :=
      { images := [{ globals := [("heap", unloadedAddress)], symbols := scatteredEntries }] } }

/-- The first loaded symbol decides, since the variable is not loaded. -/
theorem lookups_locate_scattered :
    Target.Locates "heap" (some unloadedAddress) scatteredEntries
        [⟨"heap", 0x7000, ""⟩, ⟨"copy", 0x8000, "libjvm.so"⟩] (some 0x7000) ∧
      outcome (Target.resolver ⟨some 0⟩ |>.lookupSymbol "heap") scatteredContext = .ok 0x7000 := by
  obtain ⟨symbols, place?, hlocates, hsymbols, hglobal, hfound, -⟩ :=
    @Target.lookups_locate scatteredContext rfl ⟨some 0⟩ "heap"
  have hboth : symbols = [⟨"heap", 0x7000, ""⟩, ⟨"copy", 0x8000, "libjvm.so"⟩] :=
    (EStateM.Result.ok.inj hsymbols).1.symm
  have hplace : place? = some 0x7000 := (EStateM.Result.ok.inj hglobal).1.symm
  rw [hboth, hplace] at hlocates
  exact ⟨hlocates, (hfound 0x7000).2 hplace⟩

end HeapProbe
