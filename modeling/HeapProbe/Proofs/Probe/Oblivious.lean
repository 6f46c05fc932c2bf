import HeapProbe.Proofs.Probe.Leads
import HeapProbe.Proofs.Probe.Truth

/-! # Probes that never look back

The journal is written and not read. A probe is oblivious if what the journal holds makes no
difference to it: it ends the same way, makes the same calls and leaves the same behind, whatever was
called or logged before. So two states that differ in their journals alone cannot be told apart by
any sequence of such probes.
-/

namespace HeapProbe

def Context.under (context : Context) (journal : Journal) : Context := { context with journal }

theorem Journal.extend_nil (journal : Journal) : journal.extend [] [] = journal := by
  simp [extend]

theorem Journal.extend_extend (journal : Journal) (calls calls' : List DebuggerCall)
    (records records' : List LogRecord) :
    (journal.extend calls records).extend calls' records' =
      journal.extend (calls ++ calls') (records ++ records') := by
  simp [extend, Array.append_assoc]

namespace Probe

variable {α β : Type}

/-- What the probe does does not depend on the journal, to which it only adds. -/
def Oblivious (probe : Probe α) : Prop :=
  ∀ context : Context, ∃ calls records, ∀ journal : Journal,
    outcome probe (context.under journal) = outcome probe context ∧
      after probe (context.under journal) =
        (after probe context).under (journal.extend calls records)

namespace Oblivious

theorem of_looks {probe : Probe α} {session : Nat} (h : probe.Looks session) :
    probe.Oblivious := by
  intro context
  obtain ⟨finding, hf, -⟩ := h (context.scene session) rfl
  refine ⟨finding.calls, finding.records, fun journal => ?_⟩
  have hscene : (context.under journal).scene session = context.scene session := rfl
  rw [hf.outcome_eq hscene, hf.after_eq hscene, hf.outcome_eq rfl, hf.after_eq rfl]
  exact ⟨rfl, rfl⟩

protected theorem pure (value : α) : (pure value : Probe α).Oblivious :=
  of_looks (.pure value : Looks _ 0)

protected theorem throw (fault : Fault) : (throw fault : Probe α).Oblivious :=
  of_looks (.throw fault : Looks _ 0)

protected theorem log (level : LogLevel) (source : LogSource) (message : String) :
    (log level source message).Oblivious := of_looks (.log level source message : Looks _ 0)

/-- Of the values that the first step cannot end with nothing need be known. -/
theorem bind_of_yields {probe : Probe α} {next : α → Probe β} {kind : α → Prop}
    (h : probe.Oblivious) (hkind : Yields probe kind)
    (hnext : ∀ value, kind value → (next value).Oblivious) : (probe >>= next).Oblivious := by
  intro context
  obtain ⟨calls, records, hfirst⟩ := h context
  cases ho : outcome probe context with
  | error fault =>
    refine ⟨calls, records, fun journal => ?_⟩
    obtain ⟨hsame, hafter⟩ := hfirst journal
    rw [outcome_bind, after_bind, outcome_bind, after_bind, hsame, ho, hafter]
    exact ⟨rfl, rfl⟩
  | ok value =>
    obtain ⟨calls', records', hlater⟩ := hnext value (hkind _ _ ho) (after probe context)
    refine ⟨calls ++ calls', records ++ records', fun journal => ?_⟩
    obtain ⟨hsame, hafter⟩ := hfirst journal
    obtain ⟨hsame', hafter'⟩ := hlater (journal.extend calls records)
    rw [outcome_bind, after_bind, outcome_bind, after_bind, hsame, ho, hafter]
    rw [Journal.extend_extend] at hafter'
    exact ⟨hsame', hafter'⟩

protected theorem bind {probe : Probe α} {next : α → Probe β} (h : probe.Oblivious)
    (hnext : ∀ value, (next value).Oblivious) : (probe >>= next).Oblivious :=
  h.bind_of_yields (fun _ _ _ => trivial) fun value (_ : True) => hnext value

protected theorem attempt {probe : Probe α} (h : probe.Oblivious) :
    Oblivious (attempt probe) := by
  intro context
  obtain ⟨calls, records, hsame⟩ := h context
  refine ⟨calls, records, fun journal => ?_⟩
  rw [outcome_attempt, after_attempt, outcome_attempt, after_attempt, (hsame journal).1]
  exact ⟨rfl, (hsame journal).2⟩

/-- A probe that leaves the journal alone is oblivious. -/
theorem of_still {probe : Probe α}
    (h : ∀ (context : Context) (journal : Journal),
      outcome probe (context.under journal) = outcome probe context ∧
        after probe (context.under journal) = (after probe context).under journal) :
    probe.Oblivious := by
  refine fun context => ⟨[], [], fun journal => ?_⟩
  rw [Journal.extend_nil]
  exact h context journal

section Consequences

variable {probe : Probe α} (h : probe.Oblivious) (context : Context)
include h

theorem trace_eq :
    (after probe context).trace = context.trace ++ probe.callsOf context := by
  obtain ⟨calls, records, hsame⟩ := h context
  have hafter : after probe context =
      (after probe context).under (context.journal.extend calls records) :=
    (hsame context.journal).2
  have htrace : (after probe context).trace = context.trace ++ calls := by
    rw [hafter]
    simp [Context.trace, Context.under, Journal.extend]
  rw [callsOf_eq htrace, htrace]

/-- What was added to the journal before changes neither how an oblivious probe ends nor which calls
it makes. -/
theorem of_note (calls : List DebuggerCall) (records : List LogRecord) :
    outcome probe (context.note calls records) = outcome probe context ∧
      probe.callsOf (context.note calls records) = probe.callsOf context := by
  obtain ⟨calls', records', hsame⟩ := h context
  have hnote := hsame (context.note calls records).journal
  have hplain := hsame context.journal
  have hcalls (journal : Journal) :
      probe.callsOf (context.under journal) = calls' := by
    apply callsOf_eq
    rw [(hsame journal).2]
    simp [Context.trace, Context.under, Journal.extend]
  exact ⟨hnote.1, (hcalls _).trans (hcalls context.journal).symm⟩

theorem not_isMove (hledger : (after probe context).ledger = context.ledger) :
    ∀ call ∈ probe.callsOf context, call.isMove = false := by
  change (after probe context).trace.filter _ = context.trace.filter _ at hledger
  rw [h.trace_eq context, List.filter_append] at hledger
  have hnone : (probe.callsOf context).filter DebuggerCall.isMove = [] := by
    simpa using hledger
  intro call hc
  simpa using List.filter_eq_nil_iff.1 hnone call hc

end Consequences

end Oblivious

end Probe

end HeapProbe
