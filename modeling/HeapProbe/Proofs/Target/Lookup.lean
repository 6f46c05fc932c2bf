import HeapProbe.Proofs.Image.Members
import HeapProbe.Proofs.Probe.Finding
import HeapProbe.Supply

/-! # Lookups in a target

With the debugger's bindings loaded, a lookup finds what the image says: the offsets of a class's
fields, and the place of a global variable. Where the image does not say, the lookup fails with the
fault of missing metadata. Either way it only looks.
-/

namespace HeapProbe

/-- The calls that look at a target and leave it as it is. -/
def DebuggerCall.isLook : DebuggerCall → Bool
  | .findType _ | .findGlobal _ | .findSymbols _ | .read .. => true
  | _ => false

namespace Image

variable (image : Image)

def fieldOffset? (typeName field : String) : Option Int :=
  (image.classes.lookup typeName).bind (ClassInfo.offset? field)

def loadedSymbols (name : String) : List Symbol :=
  (image.symbols.filter fun entry => entry.key = name).filterMap (SymbolEntry.symbol? name)

/-- Where a global variable was loaded: by the debug information, or else by its first symbol. -/
def globalAddress? (name : String) : Option Int :=
  match image.globals.lookup name with
  | some address =>
    if address = unloadedAddress then (image.loadedSymbols name).head?.map Symbol.address
    else some address
  | none => (image.loadedSymbols name).head?.map Symbol.address

end Image

namespace Target

variable (target : Target)

def imageOn (host : Host) : Option Image :=
  target.image.map fun index => host.images[index]?.getD {}

def membersFinding (image : Option Image) (typeName : String) : Finding Members :=
  match image.bind fun image => image.classes.lookup typeName with
  | none => ⟨.error (.refused (.unknownType typeName)), [.findType typeName], []⟩
  | some info =>
    ⟨.ok info.members, [.findType typeName],
      [⟨.debug, .target, s!"Type {typeName}: {decimal info.members.length} fields"⟩]⟩

def typeFinding (image : Option Image) (typeName : String) : Finding FieldOffsets :=
  match image.bind fun image => image.classes.lookup typeName with
  | none => ⟨.error (.missing typeName [] (some (.unknownType typeName))), [.findType typeName], []⟩
  | some info =>
    ⟨.ok (info.members.map fun member => (member.name, member.offset)), [.findType typeName],
      [⟨.debug, .target, s!"Type {typeName}: {decimal info.members.length} fields"⟩,
        ⟨.debug, .access, s!"Resolved type {typeName} ({decimal info.members.length} fields)"⟩]⟩

/-- The calls that search for a global variable: the symbols come in if the debug information does
not have it loaded. -/
def globalCalls (image : Option Image) (name : String) : List DebuggerCall :=
  match image.bind fun image => image.globals.lookup name with
  | some address =>
    if address = unloadedAddress then [.findGlobal name, .findSymbols name] else [.findGlobal name]
  | none => [.findGlobal name, .findSymbols name]

def symbolFinding (image : Option Image) (name : String) : Finding Int :=
  ⟨match image.bind fun image => image.globalAddress? name with
    | some address => .ok address
    | none => .error (.missing name [] none), globalCalls image name, []⟩

section Kinds

variable {image : Option Image} {name : String}

theorem typeFinding_calls : ∀ call ∈ (typeFinding image name).calls, call.isLook := by
  unfold typeFinding
  cases image.bind fun image => image.classes.lookup name <;> simp [DebuggerCall.isLook]

theorem typeFinding_faults : (typeFinding image name).FaultsAre (·.isInspection) := by
  unfold typeFinding
  cases image.bind fun image => image.classes.lookup name with
  | none =>
    rintro _ ⟨⟩
    rfl
  | some info => exact nofun

theorem symbolFinding_faults : (symbolFinding image name).FaultsAre (·.isInspection) := by
  unfold symbolFinding
  cases image.bind fun image => image.globalAddress? name with
  | some address => exact nofun
  | none =>
    rintro _ ⟨⟩
    rfl

end Kinds

end Target

namespace Probe.Finds

variable {scene : Scene}

theorem bindings (hb : scene.host.bindings) : needBindings.Finds scene ⟨.ok (), [], []⟩ := by
  have h : needBindings.Finds scene _ := Finds.host.bind fun host _ => .require host.bindings _
  simpa [hb] using h

theorem bindingsFor (hb : scene.host.bindings) (needed : Bool) :
    (needBindingsFor needed).Finds scene ⟨.ok (), [], []⟩ := by
  cases needed with
  | true => exact bindings hb
  | false => exact .pure ()

theorem image? (target : Target) :
    target.image?.Finds scene ⟨.ok (target.imageOn scene.host), [], []⟩ := by
  unfold Target.image? Target.imageOn
  cases target.image with
  | none => exact .pure none
  | some index =>
    exact (Finds.host.bind fun host _ => Finds.pure (host.images[index]?.getD {})).bind
      fun image _ => .pure (some image)

theorem members (target : Target) (typeName : String) :
    (target.members typeName).Finds scene
      (Target.membersFinding (target.imageOn scene.host) typeName) := by
  have hclass (info? : Option ClassInfo) :
      (match info? with
        | none => throw (.refused (.unknownType typeName))
        | some info => do
          let members := info.members
          log .debug .target s!"Type {typeName}: {decimal members.length} fields"
          return members : Probe Members).Finds scene
      (match info? with
        | none => ⟨.error (.refused (.unknownType typeName)), [], []⟩
        | some info => ⟨.ok info.members, [],
          [⟨.debug, .target, s!"Type {typeName}: {decimal info.members.length} fields"⟩]⟩) := by
    cases info? with
    | none => exact .throw _
    | some info =>
      exact ((Finds.log .debug .target
        s!"Type {typeName}: {decimal info.members.length} fields").bind fun _ _ =>
          Finds.pure info.members).congr rfl
  refine ((Finds.call _).bind fun _ _ => (image? target).bind fun image _ => hclass _).congr ?_
  unfold Target.membersFinding
  rw [Finding.andThen_ok, Finding.andThen_ok]
  cases (target.imageOn scene.host).bind fun image => image.classes.lookup typeName <;> rfl

theorem lookupType (target : Target) (typeName : String) :
    (target.lookupType typeName).Finds scene
      (Target.typeFinding (target.imageOn scene.host) typeName) := by
  refine (((members target typeName).relabel _).bind fun members _ =>
    (Finds.log _ _ _).bind fun _ _ => .pure _).congr ?_
  unfold Target.typeFinding Target.membersFinding
  cases (target.imageOn scene.host).bind fun image => image.classes.lookup typeName <;> rfl

theorem findSymbols (hb : scene.host.bindings) (target : Target) (name : String) :
    (target.findSymbols name).Finds scene
      ⟨.ok (((target.imageOn scene.host).map fun image => image.loadedSymbols name).getD []),
        [.findSymbols name], []⟩ := by
  refine ((Finds.call _).bind fun _ _ => (image? target).bind fun image _ =>
    (bindingsFor hb _).bind fun _ _ => .pure _).congr ?_
  cases target.imageOn scene.host <;> rfl

theorem firstSymbol (hb : scene.host.bindings) (target : Target) (name : String) :
    (do return (← target.findSymbols name).head?.map Symbol.address : Probe (Option Int)).Finds
      scene ⟨.ok ((target.imageOn scene.host).bind fun image =>
        (image.loadedSymbols name).head?.map Symbol.address), [.findSymbols name], []⟩ := by
  refine ((findSymbols hb target name).bind fun symbols _ =>
    .pure (symbols.head?.map Symbol.address)).congr ?_
  cases target.imageOn scene.host <;> rfl

theorem findGlobal (hb : scene.host.bindings) (target : Target) (name : String) :
    (target.findGlobal name).Finds scene
      ⟨.ok ((target.imageOn scene.host).bind fun image => image.globalAddress? name),
        Target.globalCalls (target.imageOn scene.host) name, []⟩ := by
  have hfirst := firstSymbol hb target name
  cases hg : (target.imageOn scene.host).bind fun image => image.globals.lookup name with
  | none =>
    refine ((Finds.call _).bind_of_ok ((image? target).bind_of_pure
      (by rw [hg]; exact hfirst))).congr ?_
    unfold Target.globalCalls
    rw [hg]
    cases hi : target.imageOn scene.host with
    | none => rfl
    | some image =>
      rw [hi, Option.bind_some] at hg
      simp [Image.globalAddress?, hg]
  | some address =>
    obtain ⟨image, hi, hl⟩ := Option.bind_eq_some_iff.1 hg
    by_cases hu : address = unloadedAddress
    · refine ((Finds.call _).bind_of_ok ((image? target).bind_of_pure
        (by rw [hg]; exact (bindings hb).bind_of_pure (by rw [if_pos hu]; exact hfirst)))).congr ?_
      unfold Target.globalCalls
      rw [hg, hi]
      simp [Image.globalAddress?, hl, hu]
    · refine ((Finds.call _).bind_of_ok ((image? target).bind_of_pure
        (by rw [hg]; exact (bindings hb).bind_of_pure (by rw [if_neg hu]; exact .pure _)))).congr ?_
      unfold Target.globalCalls
      rw [hg, hi]
      simp [Image.globalAddress?, hl, hu]

theorem lookupSymbol (hb : scene.host.bindings) (target : Target) (name : String) :
    (target.lookupSymbol name).Finds scene
      (Target.symbolFinding (target.imageOn scene.host) name) := by
  have hfound (address? : Option Int) :
      (match address? with
        | some address => pure address
        | none => throw (.missing name [] none) : Probe Int).Finds scene
      ⟨match address? with
        | some address => .ok address
        | none => .error (.missing name [] none), [], []⟩ := by
    cases address? with
    | some address => exact .pure address
    | none => exact .throw _
  refine ((findGlobal hb target name).bind fun address? _ => hfound address?).congr ?_
  simp [Target.symbolFinding]

end Probe.Finds

end HeapProbe
