import HeapProbe.Proofs.Heap.Truth

/-! # How a resolution is decided

A resolution goes through stages: three types, each with the fields that are wanted of it, then the
heap's address and the size of a region, each of which may be given. How a stage ends is settled by
what is known by name and, for a word that is not given, by the reader. The first stage that fails
decides the resolution, and no reader is asked before all wanted fields are known.
-/

namespace HeapProbe

open Probe

/-- What is known by name: the fields of types and the addresses of symbols. What is not known comes
with the debugger's refusal, if there was one. -/
structure Metadata where
  types : String → Except (Option Refusal) FieldOffsets
  symbols : String → Except (Option Refusal) Int

namespace Metadata

def offset? (metadata : Metadata) (typeName field : String) : Option Int :=
  match metadata.types typeName with
  | .ok fields => fields.lookup field
  | .error _ => none

def Supplies (metadata : Metadata) (typeName : String) (wanted : List String) : Prop :=
  ∃ fields, metadata.types typeName = .ok fields ∧ ∀ name ∈ wanted, (fields.lookup name).isSome

end Metadata

/-- No memory is read on the way from one context to another, which is of the same world. -/
structure Context.Quiet (world : Context → Prop) (before after : Context) : Prop where
  stays : world after
  calls : ∃ calls, after.trace = before.trace ++ calls ∧ ∀ call ∈ calls, call.isRead = false

/-- The resolver knows this metadata in every context of a world, and reads no memory for it. -/
structure Resolver.Knows (resolver : Resolver) (metadata : Metadata) (world : Context → Prop) :
    Prop where
  type (name : String) {context : Context} : world context →
    outcome (resolver.lookupType name) context =
        (metadata.types name).mapError (.metadataMissing name []) ∧
      context.Quiet world (after (resolver.lookupType name) context)
  symbol (name : String) {context : Context} : world context →
    outcome (resolver.lookupSymbol name) context =
        (metadata.symbols name).mapError (.metadataMissing name []) ∧
      context.Quiet world (after (resolver.lookupSymbol name) context)

inductive Stage where
  | fields (typeName : String) (wanted : List String)
  | word (given : Option Int) (symbol : String)

/-- How a stage ends, with the numbers it found or with a fault, and what it leaves behind. -/
inductive Stage.Ends (metadata : Metadata) (resolver : Resolver) (reader : Reader) :
    Stage → Context → Except Fault (List Int) → Context → Prop
  | unknownType {typeName : String} {wanted : List String} {cause : Option Refusal}
    {context : Context} :
    metadata.types typeName = .error cause →
      Ends metadata resolver reader (.fields typeName wanted) context
        (.error (.metadataMissing typeName [] cause)) (after (resolver.lookupType typeName) context)
  /-- What is missing is listed in order, each name as often as it is wanted. -/
  | missing {typeName : String} {wanted absent : List String} {fields : FieldOffsets}
    {context : Context} :
    metadata.types typeName = .ok fields → absent ≠ [] → absent.Pairwise (· ≤ ·) →
      absent.Perm (wanted.filter fun name => (fields.lookup name).isNone) →
        Ends metadata resolver reader (.fields typeName wanted) context
          (.error (.metadataMissing typeName absent none))
          (after (resolver.lookupType typeName) context)
  | supplied {typeName : String} {wanted : List String} {fields : FieldOffsets}
    {offsets : List Int} {context : Context} :
    metadata.types typeName = .ok fields →
      wanted.map (fun name => fields.lookup name) = offsets.map some →
      Ends metadata resolver reader (.fields typeName wanted) context (.ok offsets)
        (after (resolver.lookupType typeName) context)
  | given {word : Int} {symbol : String} {context : Context} :
    Ends metadata resolver reader (.word (some word) symbol) context (.ok [word]) context
  | unknownSymbol {symbol : String} {cause : Option Refusal} {context : Context} :
    metadata.symbols symbol = .error cause →
      Ends metadata resolver reader (.word none symbol) context
        (.error (.metadataMissing symbol [] cause)) (after (resolver.lookupSymbol symbol) context)
  | read {symbol : String} {address : Int} {context found : Context} :
    metadata.symbols symbol = .ok address →
      after (resolver.lookupSymbol symbol) context = found →
        Ends metadata resolver reader (.word none symbol) context
          ((outcome (reader.readWord address) found).map fun word => [word])
          (after (reader.readWord address) found)

/-- The course of a resolution: stage after stage, up to the first that fails. -/
inductive Stage.Course (metadata : Metadata) (resolver : Resolver) (reader : Reader) :
    List Stage → Context → Except Fault (List (List Int)) → Context → Prop
  | done {context : Context} : Course metadata resolver reader [] context (.ok []) context
  | stop {stage : Stage} {rest : List Stage} {fault : Fault} {context later : Context} :
    stage.Ends metadata resolver reader context (.error fault) later →
      Course metadata resolver reader (stage :: rest) context (.error fault) later
  | go {stage : Stage} {rest : List Stage} {answer : List Int}
    {result : Except Fault (List (List Int))} {context next later : Context} :
    stage.Ends metadata resolver reader context (.ok answer) next →
      Course metadata resolver reader rest next result later →
        Course metadata resolver reader (stage :: rest) context (result.map (answer :: ·)) later

def Session.wants (session : Session) : List (String × List String) :=
  let names := session.settings.layout
  [(names.heapType, names.heapFields.toList), (names.memRegionType, names.memRegionFields.toList),
    (names.regionType, names.regionFields.toList)]

def Session.Assembles (session : Session) (metadata : Metadata) (answers : List (List Int))
    (resolution : Resolution) : Prop :=
  let names := session.settings.layout
  ∃ (heap : Vector Int 5) (range : Vector Int 2) (region : Vector Int 4)
    (heapAddress regionSizeBytes : Int),
    answers = [heap.toList, range.toList, region.toList, [heapAddress], [regionSizeBytes]] ∧
    resolution = ⟨.ofOffsets heap range, .ofOffsets region, heapAddress, regionSizeBytes⟩ ∧
    (∀ i (h : i < 5), metadata.offset? names.heapType names.heapFields[i] = some heap[i]) ∧
    (∀ i (h : i < 2), metadata.offset? names.memRegionType names.memRegionFields[i] =
      some range[i]) ∧
    ∀ i (h : i < 4), metadata.offset? names.regionType names.regionFields[i] = some region[i]

def Session.stages (session : Session) : List Stage :=
  session.wants.map (fun want => .fields want.1 want.2) ++
    [.word session.heapAddress session.settings.layout.heapSymbol,
      .word session.settings.layout.regionSizeBytes session.settings.layout.regionSizeSymbol]

theorem Fault.missing_nil (typeName : String) (cause : Option Refusal) :
    Fault.missing typeName [] cause = .metadataMissing typeName [] cause := by
  rw [Fault.missing, List.mergeSort_nil]

/-- What is missing is sorted, and nothing else happens to it. -/
theorem Fault.missing_sorted (typeName : String) (absent : List String) (cause : Option Refusal) :
    ∃ sorted, Fault.missing typeName absent cause = .metadataMissing typeName sorted cause ∧
      sorted.Pairwise (· ≤ ·) ∧ sorted.Perm absent := by
  have htrans (a b c : String) : decide (a ≤ b) = true → decide (b ≤ c) = true →
      decide (a ≤ c) = true := by
    simpa using String.le_trans
  have htotal (a b : String) : (decide (a ≤ b) || decide (b ≤ a)) = true := by
    simpa using String.le_total a b
  have hsorted := List.pairwise_mergeSort htrans htotal absent
  exact ⟨_, rfl, by simpa using hsorted, List.mergeSort_perm _ _⟩

namespace FieldOffsets

variable {fields : FieldOffsets} {wanted absent : List String} {offsets : List Int}

theorem isSome_of_map_eq (h : wanted.map (fun name => fields.lookup name) = offsets.map some) :
    ∀ name ∈ wanted, (fields.lookup name).isSome := by
  intro name hn
  have hm : fields.lookup name ∈ offsets.map some := h ▸ List.mem_map_of_mem hn
  obtain ⟨offset, -, ho⟩ := List.mem_map.1 hm
  rw [← ho, Option.isSome_some]

theorem absent_eq_nil (h : ∀ name ∈ wanted, (fields.lookup name).isSome)
    (hp : absent.Perm (wanted.filter fun name => (fields.lookup name).isNone)) : absent = [] := by
  have hnone : (wanted.filter fun name => (fields.lookup name).isNone) = [] := by
    simpa [List.filter_eq_nil_iff, Option.isSome_iff_ne_none] using h
  exact List.perm_nil.1 (hnone ▸ hp)

theorem pick_cases {n : Nat} (typeName : String) (fields : FieldOffsets)
    (names : Vector String n) :
    (∃ offsets : Vector Int n, fields.pick typeName names = .ok offsets ∧
      names.toList.map (fun name => fields.lookup name) = offsets.toList.map some) ∨
    ∃ absent, fields.pick typeName names = .error (.metadataMissing typeName absent none) ∧
      absent ≠ [] ∧ absent.Pairwise (· ≤ ·) ∧
        absent.Perm (names.toList.filter fun name => (fields.lookup name).isNone) := by
  cases hp : fields.pick typeName names with
  | ok offsets =>
    refine .inl ⟨offsets, rfl, List.ext_getElem (by simp) fun i hi _ => ?_⟩
    have hn : i < n := by simpa using hi
    simpa using pick_eq_ok_iff.1 hp i hn
  | error fault =>
    right
    unfold pick at hp
    split at hp
    · cases hp
    · next absent hne =>
      obtain ⟨sorted, hmissing, hsorted, hperm⟩ :=
        Fault.missing_sorted typeName (fields.missing names.toList) none
      rw [hmissing] at hp
      cases hp
      refine ⟨sorted, rfl, ?_, hsorted, hperm⟩
      rintro rfl
      exact hne (List.nil_perm.1 hperm)

end FieldOffsets

section Course

variable {metadata : Metadata} {resolver : Resolver} {reader : Reader} {world : Context → Prop}

theorem Context.Quiet.trans {first second third : Context} (h : first.Quiet world second)
    (h' : second.Quiet world third) : first.Quiet world third where
  stays := h'.stays
  calls := by
    obtain ⟨calls, htrace, hreads⟩ := h.calls
    obtain ⟨calls', htrace', hreads'⟩ := h'.calls
    refine ⟨calls ++ calls', by rw [htrace', htrace, List.append_assoc], fun call hc => ?_⟩
    exact (List.mem_append.1 hc).elim (hreads call) (hreads' call)

namespace Stage

variable {stage : Stage} {context later last : Context} {result other : Except Fault (List Int)}

theorem Ends.unique (h : stage.Ends metadata resolver reader context result later)
    (h' : stage.Ends metadata resolver reader context other last) :
    other = result ∧ last = later := by
  cases h with
  | unknownType ht =>
    cases h' with
    | unknownType ht' =>
      cases ht.symm.trans ht'
      exact ⟨rfl, rfl⟩
    | missing ht' => cases ht.symm.trans ht'
    | supplied ht' => cases ht.symm.trans ht'
  | missing ht hne hs hp =>
    cases h' with
    | unknownType ht' => cases ht.symm.trans ht'
    | missing ht' _ hs' hp' =>
      cases ht.symm.trans ht'
      have hsame := (hp'.trans hp.symm).eq_of_pairwise (fun _ _ _ _ => String.le_antisymm) hs' hs
      exact ⟨by rw [hsame], rfl⟩
    | supplied ht' hl =>
      cases ht.symm.trans ht'
      exact absurd (FieldOffsets.absent_eq_nil (FieldOffsets.isSome_of_map_eq hl) hp) hne
  | supplied ht hl =>
    cases h' with
    | unknownType ht' => cases ht.symm.trans ht'
    | missing ht' hne _ hp =>
      cases ht.symm.trans ht'
      exact absurd (FieldOffsets.absent_eq_nil (FieldOffsets.isSome_of_map_eq hl) hp) hne
    | supplied ht' hl' =>
      cases ht.symm.trans ht'
      have hsame := (List.map_inj_right fun _ _ => Option.some.inj).1 (hl'.symm.trans hl)
      exact ⟨by rw [hsame], rfl⟩
  | given =>
    cases h'
    exact ⟨rfl, rfl⟩
  | unknownSymbol hs =>
    cases h' with
    | unknownSymbol hs' =>
      cases hs.symm.trans hs'
      exact ⟨rfl, rfl⟩
    | read hs' => cases hs.symm.trans hs'
  | read hs hl =>
    cases h' with
    | unknownSymbol hs' => cases hs.symm.trans hs'
    | read hs' hl' =>
      cases hs.symm.trans hs'
      cases hl.symm.trans hl'
      exact ⟨rfl, rfl⟩

/-- A stage that asks for fields goes by the type alone. -/
theorem Ends.of_fields {typeName : String} {wanted : List String}
    (h : Stage.Ends metadata resolver reader (.fields typeName wanted) context result later) :
    later = after (resolver.lookupType typeName) context ∧
      ((∃ answer, result = .ok answer) ↔ metadata.Supplies typeName wanted) ∧
      ∀ reader, Stage.Ends metadata resolver reader (.fields typeName wanted) context result
        later := by
  cases h with
  | unknownType ht =>
    refine ⟨rfl, ⟨?_, ?_⟩, fun _ => .unknownType ht⟩
    · rintro ⟨_, ⟨⟩⟩
    · rintro ⟨fields, ht', -⟩
      cases ht.symm.trans ht'
  | missing ht hne hs hp =>
    refine ⟨rfl, ⟨?_, ?_⟩, fun _ => .missing ht hne hs hp⟩
    · rintro ⟨_, ⟨⟩⟩
    · rintro ⟨fields, ht', hall⟩
      cases ht.symm.trans ht'
      exact absurd (FieldOffsets.absent_eq_nil hall hp) hne
  | supplied ht hl =>
    refine ⟨rfl, ⟨fun _ => ⟨_, ht, ?_⟩, fun _ => ⟨_, rfl⟩⟩, fun _ => .supplied ht hl⟩
    exact FieldOffsets.isSome_of_map_eq hl

theorem Course.unique {stages : List Stage} {context later last : Context}
    {result other : Except Fault (List (List Int))}
    (h : Course metadata resolver reader stages context result later)
    (h' : Course metadata resolver reader stages context other last) :
    other = result ∧ last = later := by
  induction h generalizing other last with
  | done =>
    cases h'
    exact ⟨rfl, rfl⟩
  | stop hend =>
    cases h' with
    | stop hend' =>
      obtain ⟨⟨⟩, rfl⟩ := hend.unique hend'
      exact ⟨rfl, rfl⟩
    | go hend' => cases (hend.unique hend').1
  | go hend _ ih =>
    cases h' with
    | stop hend' => cases (hend.unique hend').1
    | go hend' hrest' =>
      obtain ⟨⟨⟩, rfl⟩ := hend.unique hend'
      obtain ⟨rfl, rfl⟩ := ih hrest'
      exact ⟨rfl, rfl⟩

end Stage

/-- The probe goes through a stage: it ends as the stage does, with a value of which the answer of
the stage is taken. -/
def Probe.IsStage {α : Type} (probe : Probe α) (metadata : Metadata) (resolver : Resolver)
    (reader : Reader) (world : Context → Prop) (stage : Stage) (answer : α → List Int)
    (sound : α → Prop) : Prop :=
  ∀ context, world context → match probe context with
    | .ok value later =>
      stage.Ends metadata resolver reader context (.ok (answer value)) later ∧ sound value ∧
        world later
    | .error fault later => stage.Ends metadata resolver reader context (.error fault) later

def Probe.Takes {α : Type} (probe : Probe α) (metadata : Metadata) (resolver : Resolver)
    (reader : Reader) (world : Context → Prop) (stages : List Stage)
    (sound : List (List Int) → α → Prop) : Prop :=
  ∀ context, world context → match probe context with
    | .ok value later => ∃ answers, sound answers value ∧
      Stage.Course metadata resolver reader stages context (.ok answers) later ∧ world later
    | .error fault later =>
      Stage.Course metadata resolver reader stages context (.error fault) later

theorem Probe.Takes.cons {α β : Type} {probe : Probe α} {next : α → Probe β} {stage : Stage}
    {stages : List Stage} {answer : α → List Int} {sound : α → Prop}
    {soundAll : List (List Int) → β → Prop}
    (h : probe.IsStage metadata resolver reader world stage answer sound)
    (hnext : ∀ value, sound value → (next value).Takes metadata resolver reader world stages
      fun answers => soundAll (answer value :: answers)) :
    (probe >>= next).Takes metadata resolver reader world (stage :: stages) soundAll := by
  intro context hc
  have hstage := h context hc
  cases hp : probe context with
  | error fault later =>
    rw [hp] at hstage
    rw [bind_of_error hp]
    exact .stop hstage
  | ok value later =>
    rw [hp] at hstage
    obtain ⟨hend, hvalue, hlater⟩ := hstage
    have hrest := hnext value hvalue later hlater
    rw [bind_of_ok hp]
    cases hn : next value later with
    | error fault last =>
      rw [hn] at hrest
      exact .go hend hrest
    | ok result last =>
      rw [hn] at hrest
      obtain ⟨answers, hall, hcourse, hlast⟩ := hrest
      exact ⟨_, hall, .go hend hcourse, hlast⟩

theorem Probe.Takes.pure {α : Type} {value : α} {sound : List (List Int) → α → Prop}
    (h : sound [] value) :
    Probe.Takes (pure value) metadata resolver reader world [] sound :=
  fun _ hc => ⟨[], h, .done, hc⟩

namespace Session

variable {session : Session}

theorem isStage_pickFrom (hk : resolver.Knows metadata world) {n : Nat} (typeName : String)
    (names : Vector String n) :
    (pickFrom resolver typeName names).IsStage metadata resolver reader world
      (.fields typeName names.toList) Vector.toList
      fun offsets => ∀ i (h : i < n), metadata.offset? typeName names[i] = some offsets[i] := by
  intro context hc
  obtain ⟨hlookup, hquiet⟩ := hk.type typeName hc
  cases ht : metadata.types typeName with
  | error cause =>
    rw [ht] at hlookup
    rw [pickFrom, bind_of_error (eq_error_iff.2 ⟨hlookup, rfl⟩)]
    exact .unknownType ht
  | ok fields =>
    rw [ht] at hlookup
    rw [pickFrom, bind_of_ok (eq_ok_iff.2 ⟨hlookup, rfl⟩)]
    rcases fields.pick_cases typeName names with
      ⟨offsets, hp, hmap⟩ | ⟨absent, hp, hne, hsorted, hperm⟩
    · rw [hp]
      refine ⟨.supplied ht hmap, fun i hi => ?_, hquiet.stays⟩
      rw [Metadata.offset?, ht]
      exact FieldOffsets.pick_eq_ok_iff.1 hp i hi
    · rw [hp]
      exact .missing ht hne hsorted hperm

theorem isStage_wordOr (hk : resolver.Knows metadata world)
    (hr : ∀ address {context}, world context →
      world (after (session.reader.readWord address) context))
    (given : Option Int) (symbol : String) :
    (session.wordOr resolver given symbol).IsStage metadata resolver session.reader world
      (.word given symbol) (fun word => [word]) fun _ => True := by
  intro context hc
  cases given with
  | some word => exact ⟨.given, trivial, hc⟩
  | none =>
    obtain ⟨hlookup, hquiet⟩ := hk.symbol symbol hc
    cases hs : metadata.symbols symbol with
    | error cause =>
      rw [hs] at hlookup
      rw [wordOr, bind_of_error (eq_error_iff.2 ⟨hlookup, rfl⟩)]
      exact .unknownSymbol hs
    | ok address =>
      rw [hs] at hlookup
      rw [wordOr, bind_of_ok (eq_ok_iff.2 ⟨hlookup, rfl⟩)]
      have hend : Stage.Ends metadata resolver session.reader (.word none symbol) context _ _ :=
        .read hs rfl
      have hstays := hr address hquiet.stays
      cases hw : session.reader.readWord address (after (resolver.lookupSymbol symbol) context) with
      | ok word later =>
        obtain ⟨ho, ha⟩ := eq_ok_iff.1 hw
        rw [ho, ha] at hend
        exact ⟨hend, trivial, ha ▸ hstays⟩
      | error fault later =>
        obtain ⟨ho, ha⟩ := eq_error_iff.1 hw
        rw [ho, ha] at hend
        exact hend

/-- What is found out is put together from the answers of the stages, in their order. -/
theorem takes_findOut (hk : resolver.Knows metadata world)
    (hr : ∀ address {context}, world context →
      world (after (session.reader.readWord address) context)) :
    (session.findOut resolver).Takes metadata resolver session.reader world session.stages
      (session.Assembles metadata) := by
  refine .cons (isStage_pickFrom hk _ _) fun heap hheap => ?_
  refine .cons (isStage_pickFrom hk _ _) fun range hrange => ?_
  refine .cons (isStage_pickFrom hk _ _) fun region hregion => ?_
  refine .cons (isStage_wordOr hk hr _ _) fun heapAddress _ => ?_
  refine .cons (isStage_wordOr hk hr _ _) fun regionSizeBytes _ => ?_
  exact .pure
    ⟨heap, range, region, heapAddress, regionSizeBytes, rfl, rfl, hheap, hrange, hregion⟩

end Session

/-- A course that stops at a type reads no memory, and would be the same with any other reader. -/
theorem Stage.Course.of_not_supplied (hk : resolver.Knows metadata world)
    {wants : List (String × List String)} {rest : List Stage} {context later : Context}
    {result : Except Fault (List (List Int))}
    (h : Course metadata resolver reader (wants.map (fun want => .fields want.1 want.2) ++ rest)
      context result later) (hc : world context)
    (hno : ¬ ∀ want ∈ wants, metadata.Supplies want.1 want.2) :
    context.Quiet world later ∧ ∃ fault, result = .error fault ∧ ∀ reader,
      Course metadata resolver reader (wants.map (fun want => .fields want.1 want.2) ++ rest)
        context (.error fault) later := by
  induction wants generalizing context result with
  | nil => exact absurd nofun hno
  | cons want wants ih =>
    rw [List.map_cons, List.cons_append] at h
    -- Either this type fails and nothing more is asked, or it is supplied and a later one is not.
    cases h with
    | stop hend =>
      obtain ⟨rfl, -, hany⟩ := hend.of_fields
      exact ⟨(hk.type want.1 hc).2, _, rfl, fun reader => .stop (hany reader)⟩
    | go hend hrest =>
      obtain ⟨rfl, hsupplies, hany⟩ := hend.of_fields
      have hquiet := (hk.type want.1 hc).2
      have hrestNo : ¬ ∀ want ∈ wants, metadata.Supplies want.1 want.2 := fun hall =>
        hno (List.forall_mem_cons.2 ⟨hsupplies.1 ⟨_, rfl⟩, hall⟩)
      obtain ⟨hq, fault, rfl, hcourse⟩ := ih hrest hquiet.stays hrestNo
      exact ⟨hquiet.trans hq, fault, rfl, fun reader => .go (hany reader) (hcourse reader)⟩

end Course

namespace Session

variable {session : Session} {metadata : Metadata} {resolver : Resolver} {world : Context → Prop}
  {context : Context}

/-- How the resolution of a fresh session is decided. -/
structure Decides (session : Session) (metadata : Metadata) (resolver : Resolver)
    (world : Context → Prop) (context : Context) (result : Except Fault (List (List Int)))
    (later : Context) : Prop where
  course : Stage.Course metadata resolver session.reader session.stages context result later
  unique {other : Except Fault (List (List Int))} {last : Context} :
    Stage.Course metadata resolver session.reader session.stages context other last →
      other = result ∧ last = later
  outcome : outcome (session.resolve resolver) context = result.map fun _ => ()
  trace : (after (session.resolve resolver) context).trace = later.trace
  /-- All that was found out is published. The session is resolved, unless one of the lookups has
  settled it or detached it. -/
  resolved (answers : List (List Int)) : result = .ok answers → world later ∧
    ∃ resolution, session.Assembles metadata answers resolution ∧
      (after (session.resolve resolver) context).sessions session.id =
        ((later.sessions session.id).publish resolution).settle ∧
      (later.phase session.id = .fresh →
        (after (session.resolve resolver) context).phase session.id = .resolved resolution)
  /-- Unless all wanted fields are known no memory is read, and the reader does not matter. -/
  unsupplied : ¬ (∀ want ∈ session.wants, metadata.Supplies want.1 want.2) →
    (∃ calls, (after (session.resolve resolver) context).trace = context.trace ++ calls ∧
      ∀ call ∈ calls, call.isRead = false) ∧
    ∀ reader : Reader,
      (∀ address {context}, world context → world (after (reader.readWord address) context)) →
        Session.resolve { session with reader } resolver context = session.resolve resolver context

/-- A fresh session goes through its stages and ends as the first of them that fails, or else knows
what they answered. -/
theorem resolve_decides (hk : resolver.Knows metadata world)
    (hr : ∀ address {context}, world context →
      world (after (session.reader.readWord address) context))
    (hc : world context) (hfresh : context.phase session.id = .fresh) :
    ∃ result later, session.Decides metadata resolver world context result later := by
  have htakes := takes_findOut hk hr context hc
  cases hrun : session.findOut resolver context with
  | ok resolution found =>
    rw [hrun] at htakes
    obtain ⟨answers, hall, hcourse, hlater⟩ := htakes
    obtain ⟨ho, ha⟩ := eq_ok_iff.1 hrun
    refine ⟨.ok answers, found, hcourse, hcourse.unique, ?_, ?_, ?_, ?_⟩
    · rw [outcome_resolve_of_fresh hfresh, ho]
      rfl
    · rw [trace_resolve_of_fresh hfresh, ha]
    · rintro _ ⟨⟩
      refine ⟨hlater, resolution, hall, ?_, fun hstill => ?_⟩
      · rw [sessions_resolve_of_found hfresh ho, ha]
      · exact phase_resolve_of_found (ha ▸ hstill) hfresh ho
    · intro hno
      obtain ⟨-, fault, hfault, -⟩ := Stage.Course.of_not_supplied hk hcourse hc hno
      cases hfault
  | error fault found =>
    rw [hrun] at htakes
    have hresolve := resolve_of_findOut_error hfresh hrun
    have htrace : (after (session.resolve resolver) context).trace = found.trace := by
      rw [trace_resolve_of_fresh hfresh, (eq_error_iff.1 hrun).2]
    have hnone (answers : List (List Int)) : Except.error fault ≠ .ok answers := by
      rintro ⟨⟩
    refine ⟨.error fault, found, htakes, htakes.unique, (eq_error_iff.1 hresolve).1, htrace,
      fun answers h => absurd h (hnone answers), fun hno => ?_⟩
    obtain ⟨hquiet, _, ⟨⟩, hany⟩ := Stage.Course.of_not_supplied hk htakes hc hno
    refine ⟨htrace ▸ hquiet.calls, fun reader hr' => ?_⟩
    -- The course stopped before a reader came in, so it is also the course with the other one.
    let other : Session := { session with reader }
    have htakes' := @takes_findOut metadata resolver world other hk hr' context hc
    have hsame : other.findOut resolver context = .error fault found := by
      cases hrun' : other.findOut resolver context with
      | ok resolution last =>
        rw [hrun'] at htakes'
        obtain ⟨answers, -, hcourse, -⟩ := htakes'
        cases (hcourse.unique (hany reader)).1
      | error fault' last =>
        rw [hrun'] at htakes'
        obtain ⟨⟨⟩, rfl⟩ := htakes'.unique (hany reader)
        rfl
    have hresolve' := @resolve_of_findOut_error other context resolver fault found hfresh hsame
    exact hresolve'.trans hresolve.symm

end Session

def Target.metadataOn (target : Target) (host : Host) : Metadata where
  types name := match (target.imageOn host).bind fun image => image.classes.lookup name with
    | none => .error (some (.unknownType name))
    | some info => .ok (info.members.map fun member => (member.name, member.offset))
  symbols name := match (target.imageOn host).bind fun image => image.globalAddress? name with
    | none => .error none
    | some address => .ok address

theorem Context.Quiet.of_finds {α : Type} {probe : Probe α} {finding : Finding α}
    {context : Context} {host : Host} (h : probe.Finds (context.scene 0) finding)
    (hm : finding.IsMetadata) (hc : context.host = host) :
    context.Quiet (·.host = host) (after probe context) := by
  rw [h.after_eq rfl]
  exact ⟨hc, _, context.trace_note _ _, hm.reads⟩

theorem Target.knows {host : Host} (hb : host.bindings) (target : Target) :
    target.resolver.Knows (target.metadataOn host) (·.host = host) where
  type name context hc := by
    have hfinds : (target.lookupType name).Finds (context.scene 0) _ := .lookupType target name
    obtain ⟨finding, hf, hm⟩ := (target.looksUp hb).types name (context.scene 0) hc
    refine ⟨(hfinds.outcome_eq rfl).trans ?_, .of_finds hf hm hc⟩
    have hscene : (context.scene 0).host = host := hc
    rw [hscene]
    dsimp only [typeFinding, metadataOn]
    cases (target.imageOn host).bind fun image => image.classes.lookup name with
    | none => exact congrArg Except.error (Fault.missing_nil name _)
    | some info => rfl
  symbol name context hc := by
    have hscene : (context.scene 0).host = host := hc
    have hfinds : (target.lookupSymbol name).Finds (context.scene 0) _ :=
      .lookupSymbol (by rw [hscene, hb]) target name
    obtain ⟨finding, hf, hm⟩ := (target.looksUp hb).symbols name (context.scene 0) hc
    refine ⟨(hfinds.outcome_eq rfl).trans ?_, .of_finds hf hm hc⟩
    rw [hscene]
    dsimp only [symbolFinding, metadataOn]
    cases (target.imageOn host).bind fun image => image.globalAddress? name with
    | none => exact congrArg Except.error (Fault.missing_nil name none)
    | some address => rfl

/-- A collector whose heap has no count of bytes in use, which is wanted twice. -/
def forgetfulImage : Image where
  classes := [("ShenandoahHeap", .fields
    [⟨some "_reserved", 16, none⟩, ⟨some "_num_regions", 256, none⟩, ⟨some "_regions", 280, none⟩])]

def forgetfulContext : Context where
  host := { images := [forgetfulImage] }

def wantingSession : Session :=
  ⟨0, Inferior.readerOfSize ⟨0, ⟨some 0⟩⟩ 8, { layout := { committedField := "_used" } }, none⟩

/-- The missing field is listed as often as it is wanted. -/
theorem resolve_decides_forgetful :
    outcome (wantingSession.resolve (Target.resolver ⟨some 0⟩)) forgetfulContext =
      .error (.metadataMissing "ShenandoahHeap" ["_used", "_used"] none) := by
  have hb : forgetfulContext.host.bindings := rfl
  have hr : ∀ address {context : Context}, context.host = forgetfulContext.host →
      (after (wantingSession.reader.readWord address) context).host = forgetfulContext.host := by
    intro address context hc
    have hread : (wantingSession.reader.readWord address).Looks 0 :=
      Inferior.readWord_looks ⟨0, ⟨some 0⟩⟩ 8 address
    obtain ⟨finding, hf, -⟩ := hread (context.scene 0) rfl
    rw [hf.after_eq rfl]
    exact hc
  obtain ⟨result, later, hdecides⟩ :=
    Session.resolve_decides (Target.knows hb ⟨some 0⟩) hr rfl rfl
  have hstop : Stage.Course (Target.metadataOn ⟨some 0⟩ forgetfulContext.host)
      (Target.resolver ⟨some 0⟩) wantingSession.reader wantingSession.stages forgetfulContext
      (.error (.metadataMissing "ShenandoahHeap" ["_used", "_used"] none)) _ :=
    .stop (.missing rfl (by simp) (by simp) (.refl _))
  rw [hdecides.outcome, ← (hdecides.unique hstop).1]
  rfl

end HeapProbe
