import HeapProbe.Probe

/-! # Outcomes

Seen from outside, a step of an inspection is how it ends and the state that it leaves behind. Each
way of putting steps together has one equation for either, so that a run is worked out from the runs
of its parts.
-/

namespace HeapProbe.Probe

variable {σ α β : Type}

/-- How a step ends. -/
def outcome (step : EStateM Fault σ α) (state : σ) : Except Fault α :=
  match step state with
  | .ok value _ => .ok value
  | .error fault _ => .error fault

/-- The state that a step leaves behind, whether it ended well or not. -/
def after (step : EStateM Fault σ α) (state : σ) : σ :=
  match step state with
  | .ok _ later => later
  | .error _ later => later

theorem eq_ok_iff {step : EStateM Fault σ α} {state later : σ} {value : α} :
    step state = .ok value later ↔ outcome step state = .ok value ∧ after step state = later := by
  unfold outcome after
  cases step state <;> simp

theorem eq_error_iff {step : EStateM Fault σ α} {state later : σ} {fault : Fault} :
    step state = .error fault later ↔
      outcome step state = .error fault ∧ after step state = later := by
  unfold outcome after
  cases step state <;> simp

section Next

variable {step : EStateM Fault σ α} {state later : σ} {value : α} {fault : Fault}
  {next : α → EStateM Fault σ β}

theorem bind_of_ok {ε : Type} {step : EStateM ε σ α} {next : α → EStateM ε σ β}
    (h : step state = .ok value later) : (step >>= next) state = next value later := by
  simp only [bind, EStateM.bind, h]

theorem bind_of_error (h : step state = .error fault later) :
    (step >>= next) state = .error fault later := by
  simp only [bind, EStateM.bind, h]

theorem outcome_bind_of_ok (h : step state = .ok value later) :
    outcome (step >>= next) state = outcome (next value) later := by
  rw [outcome, outcome, bind_of_ok h]

theorem after_bind_of_ok (h : step state = .ok value later) :
    after (step >>= next) state = after (next value) later := by
  rw [after, after, bind_of_ok h]

end Next

section Composition

variable (step : EStateM Fault σ α) (next : α → EStateM Fault σ β) (state : σ)

@[simp] theorem outcome_pure (value : α) :
    outcome (pure value : EStateM Fault σ α) state = .ok value := rfl

@[simp] theorem after_pure (value : α) :
    after (pure value : EStateM Fault σ α) state = state := rfl

@[simp] theorem outcome_throw (fault : Fault) :
    outcome (throw fault : EStateM Fault σ α) state = .error fault := rfl

@[simp] theorem after_throw (fault : Fault) :
    after (throw fault : EStateM Fault σ α) state = state := rfl

theorem outcome_bind :
    outcome (step >>= next) state =
      match outcome step state with
      | .ok value => outcome (next value) (after step state)
      | .error fault => .error fault := by
  simp only [outcome, after, bind, EStateM.bind]
  cases step state <;> rfl

theorem after_bind :
    after (step >>= next) state =
      match outcome step state with
      | .ok value => after (next value) (after step state)
      | .error _ => after step state := by
  simp only [outcome, after, bind, EStateM.bind]
  cases step state <;> rfl

/-- What ends with a value got there step by step. -/
theorem exists_of_outcome_bind {step : EStateM Fault σ α} {next : α → EStateM Fault σ β} {state : σ}
    {value : β} (h : outcome (step >>= next) state = .ok value) :
    ∃ first, outcome step state = .ok first ∧
      outcome (next first) (after step state) = .ok value := by
  rw [outcome_bind] at h
  cases ho : outcome step state with
  | error fault => simp [ho] at h
  | ok first => exact ⟨first, rfl, by simpa [ho] using h⟩

@[simp] theorem outcome_attempt : outcome (attempt step) state = .ok (outcome step state) := by
  unfold outcome attempt
  cases step state <;> rfl

@[simp] theorem after_attempt : after (attempt step) state = after step state := by
  unfold after attempt
  cases step state <;> rfl

theorem attempt_run :
    attempt step state = .ok (outcome step state) (after step state) := by
  rw [eq_ok_iff]
  exact ⟨outcome_attempt step state, after_attempt step state⟩

end Composition

section Context

variable (probe : Probe α) (context : Context)

@[simp] theorem outcome_relabel (word : Fault → Fault) :
    outcome (relabel probe word) context =
      match outcome probe context with
      | .ok value => .ok value
      | .error fault => .error (word fault) := by
  unfold outcome relabel
  cases probe context <;> rfl

@[simp] theorem after_relabel (word : Fault → Fault) :
    after (relabel probe word) context = after probe context := by
  unfold after relabel
  cases probe context <;> rfl

@[simp] theorem outcome_ofExcept (result : Except Fault α) :
    outcome (ofExcept result) context = result := by
  cases result <;> rfl

@[simp] theorem after_ofExcept (result : Except Fault α) :
    after (ofExcept result) context = context := by
  cases result <;> rfl

end Context

/-- Whatever value the step ends with is of some kind. -/
def Yields (step : EStateM Fault σ α) (kind : α → Prop) : Prop :=
  ∀ state value, outcome step state = .ok value → kind value

namespace Yields

variable {kind : α → Prop}

protected theorem pure {value : α} (h : kind value) :
    Yields (pure value : EStateM Fault σ α) kind := by
  rintro _ _ ⟨⟩
  exact h

protected theorem bind {first : EStateM Fault σ β} {next : β → EStateM Fault σ α}
    {between : β → Prop} (hfirst : Yields first between)
    (h : ∀ value, between value → Yields (next value) kind) : Yields (first >>= next) kind := by
  intro state value hv
  obtain ⟨first', ho, hnext⟩ := exists_of_outcome_bind hv
  exact h first' (hfirst state first' ho) _ _ hnext

protected theorem attempt {step : EStateM Fault σ α} (h : Yields step kind) :
    Yields (attempt step) fun result => ∀ value, result = .ok value → kind value := by
  intro state result ho value hv
  rw [outcome_attempt, hv] at ho
  exact h state value (Except.ok.inj ho)

protected theorem require {condition : Prop} [Decidable condition] {fault : Fault} :
    Yields (require condition fault) fun _ => condition := by
  unfold Probe.require
  split
  · next h => exact .pure h
  · exact nofun

/-- Nothing need be known of the first step if the rest settles the value. -/
protected theorem next {first : EStateM Fault σ β} {next : β → EStateM Fault σ α}
    (h : ∀ value, Yields (next value) kind) : Yields (first >>= next) kind :=
  .bind (fun _ _ _ => trivial) fun value (_ : True) => h value

end Yields

def Blames (step : EStateM Fault σ α) (kind : Fault → Prop) : Prop :=
  ∀ state fault, outcome step state = .error fault → kind fault

namespace Blames

variable {kind : Fault → Prop}

protected theorem pure (value : α) : Blames (pure value : EStateM Fault σ α) kind := nofun

protected theorem bind {first : EStateM Fault σ β} {next : β → EStateM Fault σ α}
    (hfirst : Blames first kind) (h : ∀ value, Blames (next value) kind) :
    Blames (first >>= next) kind := by
  intro state fault hf
  rw [outcome_bind] at hf
  cases ho : outcome first state with
  | error fault' =>
    rw [ho] at hf
    cases hf
    exact hfirst state _ ho
  | ok value =>
    rw [ho] at hf
    exact h value _ _ hf

end Blames

end HeapProbe.Probe
