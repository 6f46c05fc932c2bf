import HeapProbe.Proofs.Probe.Leads

/-! # What a step keeps

A step keeps a part of the state if that part comes out of it as it went in, whether the step ends
well or with a fault. Steps that keep a part can be put together in any way and keep it still.
-/

namespace HeapProbe.Probe

/-- The step leaves a part of the state as it is, whether it ends well or not. -/
def Keeps {σ τ α : Type} (part : σ → τ) (step : EStateM Fault σ α) : Prop :=
  ∀ state, part (after step state) = part state

namespace Keeps

section Step

variable {σ τ α β : Type} {part : σ → τ}

protected theorem pure (value : α) : Keeps part (pure value) := fun _ => rfl

protected theorem throw (fault : Fault) : Keeps part (throw fault : EStateM Fault σ α) :=
  fun _ => rfl

/-- What the rest keeps is as the first step leaves it. -/
theorem after_bind_eq {step : EStateM Fault σ α} {next : α → EStateM Fault σ β}
    (hnext : ∀ value, Keeps part (next value)) (state : σ) :
    part (after (step >>= next) state) = part (after step state) := by
  rw [after_bind]
  cases outcome step state with
  | error fault => rfl
  | ok value => exact hnext value _

protected theorem bind {step : EStateM Fault σ α} {next : α → EStateM Fault σ β}
    (h : Keeps part step) (hnext : ∀ value, Keeps part (next value)) :
    Keeps part (step >>= next) := fun state => (after_bind_eq hnext state).trans (h state)

protected theorem attempt {step : EStateM Fault σ α} (h : Keeps part step) :
    Keeps part (attempt step) := by
  intro state
  rw [after_attempt]
  exact h state

end Step

section Probe

variable {τ α : Type} {part : Context → τ}

protected theorem relabel {probe : Probe α} (h : Keeps part probe) (word : Fault → Fault) :
    Keeps part (relabel probe word) := by
  intro context
  rw [after_relabel]
  exact h context

protected theorem ofExcept (result : Except Fault α) : Keeps part (Probe.ofExcept result) := by
  intro context
  rw [after_ofExcept]

protected theorem require (condition : Prop) [Decidable condition] (fault : Fault) :
    Keeps part (require condition fault) := by
  unfold Probe.require
  split
  · exact .pure ()
  · exact .throw fault

protected theorem host : Keeps part host := fun _ => rfl

protected theorem image (index : Nat) : Keeps part (image index) := fun _ => rfl

protected theorem needBindings : Keeps part needBindings := Keeps.host.bind fun _ => .require _ _

protected theorem needBindingsFor (needed : Bool) : Keeps part (needBindingsFor needed) := by
  cases needed with
  | true => exact .needBindings
  | false => exact .pure ()

protected theorem looks {probe : Probe α} {session : Nat} (h : probe.Looks session) (id : Nat) :
    Keeps (fun context : Context => context.sessions id) probe := fun context =>
  congrFun (h.leads context).sessions id

end Probe

end Keeps

end HeapProbe.Probe
