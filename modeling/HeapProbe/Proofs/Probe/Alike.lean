import HeapProbe.Proofs.Probe.Leads
import HeapProbe.Proofs.Probe.Truth

/-! # Probes that go alike

Two runs go alike if they end the same way, make the same calls and leave the same host behind, and
neither moves a session. One run may use one session and the other run another, as long as the
second session is to the second run what the first is to the first. A probe goes by a session if any
two runs of it go alike that find the session in the same phase on the same host.
-/

namespace HeapProbe

/-- Two contexts with the same host and the same phase of a first session; a second session is in
that phase in the second context. -/
structure Context.Twins (first second : Nat) (context context' : Context) : Prop where
  host : context'.host = context.host
  phase : context'.phase first = context.phase first
  phase' : context'.phase second = context.phase first

namespace Probe

variable {α β : Type}

structure Agree (probe probe' : Probe α) (context context' : Context) : Prop where
  ends : outcome probe' context' = outcome probe context
  calls : ∃ calls, (after probe context).trace = context.trace ++ calls ∧
    (after probe' context').trace = context'.trace ++ calls
  host : (after probe' context').host = (after probe context).host
  phase : (after probe context).phase = context.phase
  phase' : (after probe' context').phase = context'.phase
  sessionCount : (after probe context).sessionCount = context.sessionCount

def Alike (first second : Nat) (probe probe' : Probe α) : Prop :=
  ∀ context context' : Context, context.Twins first second context' →
    probe.Agree probe' context context'

/-- What the probe does is settled by the host and the phase of the session. -/
def GoesBy (probe : Probe α) (session : Nat) : Prop := Alike session session probe probe

namespace Agree

variable {probe probe' : Probe α} {next next' : α → Probe β} {context context' : Context}

theorem twins {first second : Nat} (h : probe.Agree probe' context context')
    (ht : context.Twins first second context') :
    (after probe context).Twins first second (after probe' context') where
  host := h.host
  phase := by rw [h.phase, h.phase', ht.phase]
  phase' := by rw [h.phase, h.phase', ht.phase']

theorem bind_of_error (h : probe.Agree probe' context context') {fault : Fault}
    (ho : outcome probe context = .error fault) :
    (probe >>= next).Agree (probe' >>= next') context context' := by
  have ho' : outcome probe' context' = .error fault := h.ends.trans ho
  have ha : after (probe >>= next) context = after probe context := by rw [after_bind, ho]
  have ha' : after (probe' >>= next') context' = after probe' context' := by rw [after_bind, ho']
  constructor
  case ends => rw [outcome_bind, outcome_bind, ho, ho']
  case calls => simpa only [ha, ha'] using h.calls
  case host => rw [ha, ha', h.host]
  case phase => rw [ha, h.phase]
  case phase' => rw [ha', h.phase']
  case sessionCount => rw [ha, h.sessionCount]

theorem bind_of_ok (h : probe.Agree probe' context context') {value : α}
    (ho : outcome probe context = .ok value)
    (hnext : (next value).Agree (next' value) (after probe context) (after probe' context')) :
    (probe >>= next).Agree (probe' >>= next') context context' := by
  have ho' : outcome probe' context' = .ok value := h.ends.trans ho
  have ha : after (probe >>= next) context = after (next value) (after probe context) := by
    rw [after_bind, ho]
  have ha' : after (probe' >>= next') context' = after (next' value) (after probe' context') := by
    rw [after_bind, ho']
  constructor
  case ends =>
    rw [outcome_bind, outcome_bind, ho, ho']
    exact hnext.ends
  case calls =>
    obtain ⟨calls, htrace, htrace'⟩ := h.calls
    obtain ⟨later, hlater, hlater'⟩ := hnext.calls
    refine ⟨calls ++ later, ?_, ?_⟩
    · rw [ha, hlater, htrace, List.append_assoc]
    · rw [ha', hlater', htrace', List.append_assoc]
  case host => rw [ha, ha', hnext.host]
  case phase => rw [ha, hnext.phase, h.phase]
  case phase' => rw [ha', hnext.phase', h.phase']
  case sessionCount => rw [ha, hnext.sessionCount, h.sessionCount]

/-- Runs agree that find the same, each about its own session. -/
theorem of_finds {first second : Nat} {finding : Finding α} (hh : context'.host = context.host)
    (hf : probe.Finds (context.scene first) finding)
    (hf' : probe'.Finds (context'.scene second) finding) :
    probe.Agree probe' context context' := by
  constructor
  case ends => rw [hf.outcome_eq rfl, hf'.outcome_eq rfl]
  all_goals simp only [hf.after_eq rfl, hf'.after_eq rfl]
  case calls => exact ⟨finding.calls, context.trace_note _ _, context'.trace_note _ _⟩
  case host => exact hh
  case phase | phase' | sessionCount => rfl

end Agree

namespace Alike

variable {first second : Nat}

theorem of_goesBy {probe : Probe α} (h : probe.GoesBy first) : Alike first second probe probe :=
  fun context context' ht => h context context' ⟨ht.host, ht.phase, ht.phase⟩

protected theorem bind {probe probe' : Probe α} {next next' : α → Probe β}
    (h : Alike first second probe probe')
    (hnext : ∀ value, Alike first second (next value) (next' value)) :
    Alike first second (probe >>= next) (probe' >>= next') := by
  intro context context' ht
  have hfirst := h context context' ht
  cases ho : outcome probe context with
  | error fault => exact hfirst.bind_of_error ho
  | ok value => exact hfirst.bind_of_ok ho (hnext value _ _ (hfirst.twins ht))

protected theorem attempt {probe probe' : Probe α} (h : Alike first second probe probe') :
    Alike first second (attempt probe) (attempt probe') := by
  intro context context' ht
  have htried := h context context' ht
  constructor
  case ends => rw [outcome_attempt, outcome_attempt, htried.ends]
  all_goals simp only [after_attempt]
  case calls => exact htried.calls
  case host => exact htried.host
  case phase => exact htried.phase
  case phase' => exact htried.phase'
  case sessionCount => exact htried.sessionCount

theorem of_looks {probe : Probe α} (h : probe.Looks first) : Alike first second probe probe := by
  intro context context' ht
  obtain ⟨finding, hf, -⟩ := h (context.scene first) rfl
  have hscene : context'.scene first = context.scene first := by
    rw [Context.scene, Context.scene, ht.host, ht.phase]
  have hf' : probe.Finds (context'.scene first) finding := hscene ▸ hf
  exact .of_finds ht.host hf hf'

end Alike

theorem GoesBy.change (session : Nat) (f : Host → Host) :
    (modify fun context => { context with host := f context.host } : Probe Unit).GoesBy
      session := by
  intro context context' ht
  constructor
  case ends => rfl
  case calls => exact ⟨[], (List.append_nil _).symm, (List.append_nil _).symm⟩
  case host => exact congrArg f ht.host
  case phase | phase' | sessionCount => rfl

end Probe

end HeapProbe
