import HeapProbe.Proofs.Probe.Finding
import HeapProbe.Supply

/-! # Views of memory

A reader sees memory through an inferior, and keeps the pointer size that the target had when the
reader was made. Every read of a word is one load. What a load yields is settled by the debugger's
side alone, and a load that yields nothing ends in a fault that names the place asked for.
-/

namespace HeapProbe

/-- A stretch of memory read as one word: `size` bytes from an address on, which are a word if they
are as many as `width`. -/
structure Load where
  width : Nat
  address : Int
  size : Int
  deriving DecidableEq

/-- What the reader of an inferior sees. -/
structure View where
  inferior : Inferior
  /-- The pointer size that the reader keeps. -/
  kept : Int
  host : Host

namespace View

variable (view : View)

def image : Image := view.host.images[view.inferior.image]?.getD {}

def pointerSize : Int := if view.image.knowsTarget then view.image.pointerSize else 8

def byteOrder : ByteOrder :=
  if view.host.bindings && view.image.knowsTarget then view.image.byteOrder else .little

/-- The word that a load yields, or why it yields none. -/
def yields (load : Load) : Except Fault Int :=
  if view.host.bindings then
    match view.image.read load.address load.size with
    | .error reason => .error (.refused (.read load.address load.size reason))
    | .ok bytes =>
      if bytes.length = load.width then .ok (view.byteOrder.decode bytes)
      else .error (.notAWord load.width)
  else .error .bindingsLost

/-- The calls that a load makes. Once the bindings are gone it makes none. -/
def callsFor (load : Load) : List DebuggerCall :=
  if view.host.bindings then [.read load.address load.size] else []

/-- The load of a pointer, which is a word of 8 bytes if it has that size and else of 4. -/
def pointerLoad (address : Int) : Load :=
  ⟨if view.pointerSize = 8 then 8 else 4, address, view.pointerSize⟩

/-- What a load finds that is reported as a read of `length` bytes at `address`. -/
def finding (load : Load) (address length : Int) : Finding Int :=
  Finding.relabel ⟨view.yields load, view.callsFor load, []⟩ (Fault.ofRead address length)

def word (address : Int) : Finding Int :=
  view.finding (view.pointerLoad address) address view.kept

def uint32 (address : Int) : Finding Int := view.finding ⟨4, address, 4⟩ address 4

def uint64 (address : Int) : Finding Int := view.finding ⟨8, address, 8⟩ address 8

def element (base index : Int) : Finding Int :=
  view.finding (view.pointerLoad (base + index * view.pointerSize)) (base + index * view.kept)
    view.kept

/-- A load that yields nothing is reported as memory that is not available, unless the bindings are
gone. -/
theorem fault_of_finding {load : Load} {address length : Int} {fault : Fault}
    (h : (view.finding load address length).outcome = .error fault) :
    (view.host.bindings = false ∧ fault = .bindingsLost) ∨
      (view.host.bindings = true ∧
        ∃ failure, fault = .unavailable address length (some failure)) := by
  unfold finding Finding.relabel yields at h
  by_cases hb : view.host.bindings
  · refine .inr ⟨hb, ?_⟩
    cases hr : view.image.read load.address load.size with
    | error reason =>
      simp only [hb, hr] at h
      cases h
      exact ⟨_, rfl⟩
    | ok bytes =>
      by_cases hl : bytes.length = load.width
      · simp [hb, hr, hl] at h
      · simp only [hb, hr, hl] at h
        cases h
        exact ⟨_, rfl⟩
  · refine .inl ⟨by simpa using hb, ?_⟩
    simp only [hb] at h
    cases h
    rfl

/-- The loads that are made one after the other until one yields nothing, that one included. -/
def untilFault : List Load → List Load
  | [] => []
  | load :: rest =>
    load :: match view.yields load with
      | .ok _ => untilFault rest
      | .error _ => []

end View

namespace Probe.Finds

variable {scene : Scene} {view : View}

protected theorem image (index : Nat) :
    (image index).Finds scene ⟨.ok (scene.host.images[index]?.getD {}), [], []⟩ :=
  Finds.host.bind fun host _ => .pure (host.images[index]?.getD {})

protected theorem needBindings :
    needBindings.Finds scene
      ⟨if scene.host.bindings then .ok () else .error .bindingsLost, [], []⟩ :=
  Finds.host.bind fun host _ => .require host.bindings .bindingsLost

theorem pointerSize (hv : view.host = scene.host) :
    view.inferior.pointerSize.Finds scene ⟨.ok view.pointerSize, [], []⟩ := by
  rw [View.pointerSize, View.image, hv]
  exact (Finds.image view.inferior.image).bind fun image _ => .pure _

theorem byteOrder (hv : view.host = scene.host) :
    view.inferior.byteOrder.Finds scene ⟨.ok view.byteOrder, [], []⟩ := by
  rw [View.byteOrder, View.image, hv]
  exact (Finds.image view.inferior.image).bind fun image _ => Finds.host.bind fun host _ => .pure _

theorem readMemory (hv : view.host = scene.host) (address size : Int) :
    (view.inferior.readMemory address size).Finds scene
      ⟨if view.host.bindings then
          match view.image.read address size with
          | .ok bytes => .ok bytes
          | .error reason => .error (.refused (.read address size reason))
        else .error .bindingsLost,
        if view.host.bindings then [.read address size] else [], []⟩ := by
  have hread (image : Image) :
      (match image.read address size with
        | .ok bytes => pure bytes
        | .error reason => throw (.refused (.read address size reason)) : Probe (List UInt8)).Finds
      scene ⟨match image.read address size with
        | .ok bytes => .ok bytes
        | .error reason => .error (.refused (.read address size reason)), [], []⟩ := by
    cases image.read address size with
    | ok bytes => exact .pure bytes
    | error reason => exact .throw _
  refine (Finds.needBindings.bind fun _ _ => (Finds.call _).bind fun _ _ =>
    (Finds.image _).bind fun image _ => hread image).congr ?_
  rw [View.image, hv]
  cases scene.host.bindings <;> simp

theorem readWord (hv : view.host = scene.host) (load : Load) :
    (view.inferior.readWord load.width load.address load.size).Finds scene
      ⟨view.yields load, view.callsFor load, []⟩ := by
  have hword (order : ByteOrder) (bytes : List UInt8) :
      (if bytes.length = load.width then pure ((order.decode bytes : Nat) : Int)
        else throw (.notAWord load.width) : Probe Int).Finds scene
      ⟨if bytes.length = load.width then .ok (order.decode bytes : Int)
        else .error (.notAWord load.width), [], []⟩ := by
    split
    · exact .pure _
    · exact .throw _
  refine ((readMemory hv load.address load.size).bind fun bytes _ =>
    (byteOrder hv).bind fun order _ => hword order bytes).congr ?_
  unfold View.yields View.callsFor
  cases view.host.bindings <;> cases view.image.read load.address load.size <;> simp

theorem readPointer (hv : view.host = scene.host) (address : Int) :
    (view.inferior.readPointer address).Finds scene
      ⟨view.yields (view.pointerLoad address), view.callsFor (view.pointerLoad address), []⟩ :=
  (pointerSize hv).bind_of_pure (readWord hv (view.pointerLoad address))

theorem reader (hv : view.host = scene.host) :
    view.inferior.reader.Finds scene
      ⟨.ok (view.inferior.readerOfSize view.pointerSize), [], []⟩ :=
  (pointerSize hv).bind_of_pure (.pure (view.inferior.readerOfSize view.pointerSize))

theorem word (hv : view.host = scene.host) (address : Int) :
    ((view.inferior.readerOfSize view.kept).readWord address).Finds scene (view.word address) :=
  (readPointer hv address).relabel _

theorem uint32 (hv : view.host = scene.host) (address : Int) :
    ((view.inferior.readerOfSize view.kept).readUInt32 address).Finds scene
      (view.uint32 address) :=
  (readWord hv ⟨4, address, 4⟩).relabel _

theorem uint64 (hv : view.host = scene.host) (address : Int) :
    ((view.inferior.readerOfSize view.kept).readUInt64 address).Finds scene
      (view.uint64 address) :=
  (readWord hv ⟨8, address, 8⟩).relabel _

theorem element (hv : view.host = scene.host) (base index : Int) :
    ((view.inferior.readerOfSize view.kept).readAddressAt base index).Finds scene
      (view.element base index) := by
  have h : (view.inferior.readPointerAt base index).Finds scene _ :=
    (pointerSize hv).bind_of_pure (readPointer hv (base + index * view.pointerSize))
  exact h.relabel _

end Probe.Finds

end HeapProbe
