import HeapProbe.Proofs.Memory.View

/-! # Truthful faults

A read of a word fails if the debugger refuses it or gives a number of bytes that the word does not
have. A probe tells the truth about its reads if it ends in a fault of unavailable memory exactly if
one of them failed, names that read, and makes no call after it; any other fault is one that a caller
is told to expect. This carries over from the steps of a probe to the whole.
-/

namespace HeapProbe

/-- The read is refused, or its bytes are no word. -/
def Image.fails (image : Image) : DebuggerCall → Bool
  | .read address size =>
    match image.read address size with
    | .ok bytes => bytes.length ≠ if size = 8 then 8 else 4
    | .error _ => true
  | _ => false

def Context.trace (context : Context) : List DebuggerCall := context.journal.calls.toList

@[simp] theorem Context.trace_note (context : Context) (calls : List DebuggerCall)
    (records : List LogRecord) : (context.note calls records).trace = context.trace ++ calls := by
  simp [trace, note, Journal.extend]

/-- The faults that blame no read: those of the inspection but for unavailable memory, and numbers
that are too long to write. -/
def Fault.isPlain : Fault → Bool
  | .unavailable .. => false
  | fault => fault.isInspection || fault = .overlongNumeral

theorem Fault.isPlain_ofIndex (index : Int) (count : Option Int) :
    (ofIndex index count).isPlain := by
  unfold ofIndex
  split <;> rfl

/-- What an operation ends with tells what became of the calls that it made. -/
structure Truthful {α : Type} (image : Image) (result : Except Fault α)
    (calls : List DebuggerCall) : Prop where
  unavailable_iff : (∃ address length failure,
    result = .error (.unavailable address length failure)) ↔ ∃ call ∈ calls, image.fails call
  /-- The read that failed is named, and is the last call. -/
  place : ∀ address length failure, result = .error (.unavailable address length failure) →
    ∃ earlier, calls = earlier ++ [.read address length] ∧
      ∀ call ∈ earlier, image.fails call = false
  plain : ∀ fault, result = .error fault →
    (∃ address length failure, fault = .unavailable address length failure) ∨ fault.isPlain

namespace Truthful

variable {α β : Type} {image : Image} {calls calls' : List DebuggerCall}

theorem ok (value : α) (h : ∀ call ∈ calls, image.fails call = false) :
    Truthful image (.ok value) calls where
  unavailable_iff := by
    refine ⟨?_, ?_⟩
    · rintro ⟨_, _, _, ⟨⟩⟩
    · rintro ⟨call, hc, hf⟩
      exact absurd (h call hc) (by simp [hf])
  place := nofun
  plain := nofun

theorem clean {value : α} (h : Truthful image (.ok value) calls) :
    ∀ call ∈ calls, image.fails call = false := by
  intro call hc
  rw [← Bool.not_eq_true]
  intro hf
  obtain ⟨_, _, _, ⟨⟩⟩ := h.unavailable_iff.2 ⟨call, hc, hf⟩

theorem of_plain {fault : Fault} (hp : fault.isPlain)
    (h : ∀ call ∈ calls, image.fails call = false) :
    Truthful image (.error fault : Except Fault α) calls where
  unavailable_iff := by
    refine ⟨?_, ?_⟩
    · rintro ⟨_, _, _, ⟨⟩⟩
      cases hp
    · rintro ⟨call, hc, hf⟩
      exact absurd (h call hc) (by simp [hf])
  place := by
    rintro _ _ _ ⟨⟩
    cases hp
  plain := by
    rintro _ ⟨⟩
    exact .inr hp

/-- Of a result that is a fault nothing else counts. -/
theorem cast {fault : Fault} (h : Truthful image (.error fault : Except Fault α) calls) :
    Truthful image (.error fault : Except Fault β) calls where
  unavailable_iff := by
    rw [← h.unavailable_iff]
    simp
  place address length failure he := h.place address length failure (by cases he; rfl)
  plain fault' he := h.plain fault' (by cases he; rfl)

theorem append {result : Except Fault α} (hc : ∀ call ∈ calls, image.fails call = false)
    (h : Truthful image result calls') : Truthful image result (calls ++ calls') where
  unavailable_iff := by
    rw [h.unavailable_iff]
    refine ⟨fun ⟨call, hm, hf⟩ => ⟨call, List.mem_append_right _ hm, hf⟩, ?_⟩
    rintro ⟨call, hm, hf⟩
    rcases List.mem_append.1 hm with hm | hm
    · exact absurd (hc call hm) (by simp [hf])
    · exact ⟨call, hm, hf⟩
  place address length failure he := by
    obtain ⟨earlier, rfl, hearlier⟩ := h.place address length failure he
    refine ⟨calls ++ earlier, (List.append_assoc _ _ _).symm, fun call hm => ?_⟩
    exact (List.mem_append.1 hm).elim (hc call) (hearlier call)
  plain := h.plain

theorem getLast?_of_unavailable {result : Except Fault α} {address length : Int}
    {failure : Option ReadFailure} (h : Truthful image result calls)
    (he : result = .error (.unavailable address length failure)) :
    calls.getLast? = some (.read address length) := by
  obtain ⟨earlier, rfl, -⟩ := h.place address length failure he
  simp

end Truthful

namespace Finding

variable {α β : Type} {image : Image}

def IsTruthful (finding : Finding α) (image : Image) : Prop :=
  Truthful image finding.outcome finding.calls

theorem IsTruthful.andThen {finding : Finding α} {next : α → Finding β}
    (h : finding.IsTruthful image) (hnext : ∀ value, (next value).IsTruthful image) :
    (finding.andThen next).IsTruthful image := by
  rcases finding with ⟨fault | value, calls, records⟩
  · exact Truthful.cast h
  · exact Truthful.append (Truthful.clean h) (hnext value)

theorem isTruthful_of_load {view : View} (hb : view.host.bindings) {load : Load}
    (hw : load.width = if load.size = 8 then 8 else 4) :
    (view.finding load load.address load.size).IsTruthful view.image := by
  have hfails (hf : view.image.fails (.read load.address load.size)) {failure : ReadFailure} :
      Truthful view.image
        (.error (.unavailable load.address load.size (some failure)) : Except Fault Int)
        [.read load.address load.size] :=
    { unavailable_iff := ⟨fun _ => ⟨_, List.mem_singleton_self _, hf⟩, fun _ => ⟨_, _, _, rfl⟩⟩
      place := by
        rintro _ _ _ ⟨⟩
        exact ⟨[], rfl, nofun⟩
      plain := by
        rintro _ ⟨⟩
        exact .inl ⟨_, _, _, rfl⟩ }
  unfold IsTruthful View.finding Finding.relabel View.yields View.callsFor
  rw [if_pos hb, if_pos hb]
  cases hr : view.image.read load.address load.size with
  | error reason => exact hfails (by simp [Image.fails, hr])
  | ok bytes =>
    dsimp only
    by_cases hl : bytes.length = load.width
    · rw [if_pos hl]
      refine .ok _ fun call hc => ?_
      rw [List.mem_singleton.1 hc]
      simp [Image.fails, hr, hl, hw]
    · rw [if_neg hl]
      rw [hw] at hl
      exact hfails (by simp [Image.fails, hr, hl])

end Finding

namespace Probe

variable {α β : Type} {host : Host} {image : Image}

def callsOf (probe : Probe α) (context : Context) : List DebuggerCall :=
  (after probe context).trace.drop context.trace.length

/-- On a host the probe tells the truth about its calls, and leaves the host as it is. -/
def Tells (probe : Probe α) (host : Host) (image : Image) : Prop :=
  ∀ context : Context, context.host = host →
    (after probe context).host = host ∧
      (after probe context).trace = context.trace ++ probe.callsOf context ∧
      Truthful image (outcome probe context) (probe.callsOf context)

theorem callsOf_eq {probe : Probe α} {context : Context} {calls : List DebuggerCall}
    (h : (after probe context).trace = context.trace ++ calls) : probe.callsOf context = calls := by
  rw [callsOf, h, List.drop_left]

namespace Tells

theorem of_trace {probe : Probe α}
    (h : ∀ context : Context, context.host = host →
      (after probe context).host = host ∧ ∃ calls,
        (after probe context).trace = context.trace ++ calls ∧
        Truthful image (outcome probe context) calls) : probe.Tells host image := by
  intro context hc
  obtain ⟨hhost, calls, htrace, ht⟩ := h context hc
  rw [callsOf_eq htrace]
  exact ⟨hhost, htrace, ht⟩

/-- A probe tells the truth if it finds nothing else, whatever the phase of a session. -/
theorem of_finds (session : Nat) {probe : Probe α}
    (h : ∀ scene : Scene, scene.host = host → scene.session = session →
      ∃ finding, probe.Finds scene finding ∧ finding.IsTruthful image) :
    probe.Tells host image := by
  refine of_trace fun context hc => ?_
  obtain ⟨finding, hf, ht⟩ := h (context.scene session) hc rfl
  rw [hf.outcome_eq rfl, hf.after_eq rfl]
  exact ⟨hc, finding.calls, context.trace_note _ _, ht⟩

protected theorem pure (value : α) : (pure value : Probe α).Tells host image :=
  of_trace fun _ hc => ⟨hc, [], (List.append_nil _).symm, .ok value nofun⟩

protected theorem throw {fault : Fault} (hp : fault.isPlain) :
    (throw fault : Probe α).Tells host image :=
  of_trace fun _ hc => ⟨hc, [], (List.append_nil _).symm, .of_plain hp nofun⟩

protected theorem ofExcept {result : Except Fault α}
    (h : ∀ fault, result = .error fault → fault.isPlain) :
    (Probe.ofExcept result).Tells host image := by
  cases result with
  | ok value => exact .pure value
  | error fault => exact .throw (h fault rfl)

protected theorem bind {probe : Probe α} {next : α → Probe β} (h : probe.Tells host image)
    (hnext : ∀ value, (next value).Tells host image) : (probe >>= next).Tells host image := by
  refine of_trace fun context hc => ?_
  obtain ⟨hhost, htrace, ht⟩ := h context hc
  rw [after_bind, outcome_bind]
  cases ho : outcome probe context with
  | error fault =>
    rw [ho] at ht
    exact ⟨hhost, _, htrace, ht.cast⟩
  | ok value =>
    rw [ho] at ht
    obtain ⟨hhost', htrace', ht'⟩ := hnext value _ hhost
    dsimp only
    refine ⟨hhost', _, ?_, .append ht.clean ht'⟩
    rw [htrace', htrace, List.append_assoc]

end Tells

end Probe

end HeapProbe
