import HeapProbe.Proofs.Heap.Visitor
import Mathlib.Data.List.Basic

/-! # Visitors that keep accounts

A visitor may keep an account of the regions that it is handed: a list that it appends to, or a
table of counts. A walk does not look at the account. When it ends, well or not, the account has
been brought up to date with each region that was handed out, in order. So to list the regions is to
iterate with a visitor that appends, and to count them is to iterate with one that tallies.
-/

namespace HeapProbe

open Probe

/-- A probe next to an account that it does not touch. -/
def Probe.beside {σ α : Type} (probe : Probe α) : EStateM Fault (σ × Context) α :=
  fun (account, context) =>
    match probe context with
    | .ok value later => .ok value (account, later)
    | .error fault later => .error fault (account, later)

/-- What steps that keep an account leave in it. -/
def Probe.collect {σ : Type} (start : σ) (steps : EStateM Fault (σ × Context) Unit) : Probe σ :=
  fun context =>
    match steps (start, context) with
    | .ok () (account, later) => .ok account later
    | .error fault (_, later) => .error fault later

/-- Where something ended well or not, in a state. -/
def settle {σ α : Type} (ending : Except Fault Unit) (value : α) (state : σ) :
    EStateM.Result Fault σ α :=
  match ending with
  | .ok () => .ok value state
  | .error fault => .error fault state

section Beside

variable {σ α : Type} {probe : Probe α} {account : σ} {context later : Context}

theorem beside_ok {value : α} (h : probe context = .ok value later) :
    probe.beside (account, context) = .ok value (account, later) := by
  simp only [beside, h]

theorem beside_error {fault : Fault} (h : probe context = .error fault later) :
    probe.beside (account, context) = .error fault (account, later) := by
  simp only [beside, h]

theorem attempt_beside :
    attempt probe.beside (account, context) =
      .ok (outcome probe context) (account, after probe context) := by
  cases h : probe context <;> simp [attempt, beside, outcome, after, h]

theorem collect_of_settled {steps : EStateM Fault (σ × Context) Unit} {start last : σ}
    {ending : Except Fault Unit} (h : steps (start, context) = settle ending () (last, later)) :
    collect start steps context = settle ending last later := by
  unfold collect
  rw [h]
  cases ending <;> rfl

end Beside

namespace Heap

variable {σ : Type} (heap : Heap)

/-- Decodes regions from an index on for a visitor with an account, and counts those handed out. -/
def iterateFrom (accept : RegionFilter) (visit : Region → EStateM Fault (σ × Context) Unit) :
    Nat → Nat → EStateM Fault (σ × Context) Nat
  | _, 0 => pure 0
  | index, remaining + 1 => do
    match ← attempt (heap.regionAt index).beside with
    | .error fault =>
      (noteAbort index fault).beside
      throw fault
    | .ok region =>
      if accept region.state then
        visit region
        let later ← iterateFrom accept visit (index + 1) remaining
        return later + 1
      else iterateFrom accept visit (index + 1) remaining

def iterateWith (visit : Region → EStateM Fault (σ × Context) Unit)
    (accept : RegionFilter := RegionFilter.liveOnly) : EStateM Fault (σ × Context) Unit := do
  let count ← heap.numRegions.beside
  (log .debug .walk s!"Walking {decimal count} regions").beside
  let visited ← heap.iterateFrom accept visit 0 count.toNat
  (log .debug .walk s!"Visited {decimal visited} of {decimal count} regions").beside

/-- The visitor that brings an account up to date before it acts. -/
def keeping (step : σ → Region → σ) (visit : Region → Probe Unit) (region : Region) :
    EStateM Fault (σ × Context) Unit := do
  modify fun (account, context) => (step account region, context)
  (visit region).beside

variable {heap} {accept : RegionFilter} {visit : Region → Probe Unit} {step : σ → Region → σ}

theorem keeping_run (region : Region) (account : σ) (context : Context) :
    keeping step visit region (account, context) =
      settle (outcome (visit region) context) ()
        (step account region, after (visit region) context) := by
  change (visit region).beside (step account region, context) = _
  cases h : visit region context <;> simp [settle, beside, outcome, after, h]

theorem iterateFrom_keeping (index remaining : Nat) (account : σ) (context : Context) :
    ∃ walk later, heap.walkFrom accept visit index remaining context = .ok walk later ∧
      heap.iterateFrom accept (keeping step visit) index remaining (account, context) =
        settle walk.outcome walk.visited.length (walk.visited.foldl step account, later) := by
  induction remaining generalizing index account context with
  | zero => exact ⟨_, _, rfl, rfl⟩
  | succ remaining ih =>
    unfold walkFrom iterateFrom
    rw [bind_of_ok (attempt_run _ _), bind_of_ok attempt_beside]
    cases outcome (heap.regionAt index) context with
    | error fault =>
      have hnote := finds_noteAbort ((after (heap.regionAt index) context).scene 0) index fault
      dsimp only
      rw [bind_of_ok (hnote.ok rfl), bind_of_ok (beside_ok (hnote.ok rfl))]
      exact ⟨_, _, rfl, rfl⟩
    | ok region =>
      by_cases ha : accept region.state
      · dsimp only
        rw [if_pos ha, if_pos ha, bind_of_ok (attempt_run _ _)]
        have hkept := @keeping_run σ visit step region account (after (heap.regionAt index) context)
        cases ho : outcome (visit region) (after (heap.regionAt index) context) with
        | error fault =>
          rw [ho] at hkept
          rw [bind_of_error hkept]
          exact ⟨_, _, rfl, rfl⟩
        | ok _ =>
          rw [ho] at hkept
          obtain ⟨walk, later, hwalk, hrest⟩ := ih (index + 1) (step account region)
            (after (visit region) (after (heap.regionAt index) context))
          rw [bind_of_ok hkept]
          dsimp only
          rw [bind_of_ok hwalk]
          refine ⟨_, _, rfl, ?_⟩
          cases ho : walk.outcome with
          | error fault =>
            rw [ho] at hrest
            exact bind_of_error hrest
          | ok _ =>
            rw [ho] at hrest
            exact bind_of_ok hrest
      · dsimp only
        rw [if_neg ha, if_neg ha]
        exact ih _ _ _

/-- To iterate with a visitor that keeps an account is to walk, and to bring the account up to date
with every region that the walk hands out. -/
theorem iterateWith_keeping (account : σ) (context : Context) :
    ∃ walk later, heap.walk accept visit context = .ok walk later ∧
      heap.iterateWith (keeping step visit) accept (account, context) =
        settle walk.outcome () (walk.visited.foldl step account, later) := by
  unfold walk iterateWith
  rw [bind_of_ok (attempt_run _ _)]
  cases hc : heap.numRegions context with
  | error fault later =>
    rw [(eq_error_iff.1 hc).1, (eq_error_iff.1 hc).2, bind_of_error (beside_error hc)]
    exact ⟨_, _, rfl, rfl⟩
  | ok count start =>
    have hlog : (log .debug .walk s!"Walking {decimal count} regions").Finds (start.scene 0)
        ⟨.ok (), [], startRecords count⟩ := .log _ _ _
    obtain ⟨walk, last, hwalk, hfrom⟩ := @iterateFrom_keeping σ heap accept visit step 0
      count.toNat account (start.note [] (startRecords count))
    have hend := finds_noteEnd (last.scene 0) count walk
    rw [(eq_ok_iff.1 hc).1, (eq_ok_iff.1 hc).2, bind_of_ok (beside_ok hc)]
    dsimp only
    rw [bind_of_ok (hlog.ok rfl), bind_of_ok hwalk, bind_of_ok (hend.ok rfl),
      bind_of_ok (beside_ok (hlog.ok rfl))]
    refine ⟨_, _, rfl, ?_⟩
    cases ho : walk.outcome with
    | error fault =>
      rw [ho] at hfrom
      rw [bind_of_error hfrom]
      simp [endRecords, settle]
    | ok _ =>
      rw [ho] at hfrom
      have hlast : (log .debug .walk
          s!"Visited {decimal walk.visited.length} of {decimal count} regions").Finds
            (last.scene 0) _ := .log _ _ _
      rw [bind_of_ok hfrom, beside_ok (hlast.ok rfl)]
      rfl

/-- With a visitor that has no account, it is the walk of that visitor. -/
theorem iterateWith_beside (account : σ) (context : Context) :
    heap.iterateWith (fun region => (visit region).beside) accept (account, context) =
      (heap.iterate visit accept).beside (account, context) := by
  obtain ⟨walk, later, hwalk, hwith⟩ :=
    @iterateWith_keeping σ heap accept visit (fun account _ => account) account context
  have hiterate : heap.iterate visit accept context = settle walk.outcome () later := by
    unfold iterate
    rw [bind_of_ok hwalk]
    cases walk.outcome <;> rfl
  rw [List.foldl_fixed] at hwith
  refine Eq.trans hwith ?_
  cases ho : walk.outcome with
  | error fault =>
    rw [ho] at hiterate
    exact (beside_error hiterate).symm
  | ok _ =>
    rw [ho] at hiterate
    exact (beside_ok hiterate).symm

theorem regions_of_settled {walk : Walk} {context later : Context}
    (h : heap.walk accept (fun _ => pure ()) context = .ok walk later) :
    heap.regions accept context = settle walk.outcome walk.visited later := by
  unfold regions
  rw [bind_of_ok h]
  cases walk.outcome <;> rfl

/-- To list the regions is to iterate with a visitor that appends them to a list. -/
theorem regions_eq_collect (heap : Heap) (accept : RegionFilter) :
    heap.regions accept = collect [] (heap.iterateWith
      (keeping (fun listed region => listed ++ [region]) fun _ => pure ()) accept) := by
  funext context
  obtain ⟨walk, later, hwalk, hwith⟩ := @iterateWith_keeping (List Region) heap accept
    (fun _ => pure ()) (fun listed region => listed ++ [region]) [] context
  rw [List.foldl_append_eq_append, ← List.flatMap_def, List.flatMap_singleton', List.nil_append]
    at hwith
  rw [regions_of_settled hwalk, collect_of_settled hwith]

def tally (counts : List (RegionState × Nat)) (region : Region) : List (RegionState × Nat) :=
  counts.map fun entry => (entry.1, if region.state = entry.1 then entry.2 + 1 else entry.2)

theorem foldl_tally (visited : List Region) (states : List RegionState)
    (count : RegionState → Nat) :
    visited.foldl tally (states.map fun state => (state, count state)) =
      states.map fun state =>
        (state, count state + visited.countP fun region => region.state = state) := by
  induction visited generalizing count with
  | nil => rfl
  | cons region rest ih =>
    rw [List.foldl_cons, tally, List.map_map]
    refine (ih fun state => if region.state = state then count state + 1 else count state).trans ?_
    refine List.map_congr_left fun state _ => ?_
    rw [List.countP_cons]
    by_cases hstate : region.state = state
    · simp [hstate, Nat.add_assoc, Nat.add_comm 1]
    · simp [hstate]

/-- To count the regions is to iterate over all of them with a visitor that tallies. -/
theorem countByState_eq_collect (heap : Heap) :
    heap.countByState = collect (RegionState.all.map fun state => (state, 0))
      (heap.iterateWith (keeping tally fun _ => pure ()) RegionFilter.everything) := by
  funext context
  obtain ⟨walk, later, hwalk, hwith⟩ := @iterateWith_keeping _ heap .everything
    (fun _ => pure ()) tally (RegionState.all.map fun state => (state, 0)) context
  have hregions := regions_of_settled hwalk
  rw [foldl_tally] at hwith
  rw [collect_of_settled hwith]
  unfold countByState
  cases ho : walk.outcome with
  | error fault =>
    rw [ho] at hregions
    exact bind_of_error hregions
  | ok _ =>
    rw [ho] at hregions
    rw [bind_of_ok hregions]
    simp only [Nat.zero_add]
    rfl

end Heap

end HeapProbe
