import HeapProbe.Proofs.Heap.Query

/-! # Walks with any visitor

Between two regions a visitor may do anything: change the target's memory, move the session on, or
fail. Nothing is assumed of it here, nor of how the target is read. A walk is told by its moments,
the contexts in which it decodes one index after the other. Each moment is what the one before it
left, the first index that fails is the last one decoded, and there are no more moments than the
count that was read at the start.
-/

namespace HeapProbe

open Probe

namespace Heap

theorem regionAt_yields_index (heap : Heap) (index : Int) :
    Yields (heap.regionAt index) fun region => region.index = index := by
  unfold regionAt regionInSlot decodeRegion
  refine .next fun _ => .next fun _ => .next fun _ => .next fun _ => .next fun _ => .next fun _ => ?_
  refine .next fun _ => .next fun _ => .next fun _ => .next fun _ => .next fun _ => .next fun _ => ?_
  exact .pure rfl

variable (heap : Heap) (accept : RegionFilter) (visit : Region → Probe Unit)

/-- What a walk does with an index: it is decoded, and its region handed out if it is admitted. -/
def visitAt (index : Nat) : Probe Unit := do
  let region ← heap.regionAt index
  if accept region.state then visit region else pure ()

def handedOut (index : Nat) (moment : Context) : Option Region :=
  match outcome (heap.regionAt index) moment with
  | .ok region => if accept region.state then some region else none
  | .error _ => none

def leftAt (index : Nat) (moment : Context) : Context :=
  (after (heap.visitAt accept visit index) moment).note []
    (abortRecords index ((fun _ => ()) <$> outcome (heap.regionAt index) moment))

/-- The contexts in which a walk decodes, one for each index that it comes to. -/
def moments (index : Nat) : Nat → Context → List Context
  | 0, _ => []
  | remaining + 1, context =>
    context :: match outcome (heap.visitAt accept visit index) context with
      | .ok () => moments (index + 1) remaining (after (heap.visitAt accept visit index) context)
      | .error _ => []

section Moments

variable {heap accept visit} {index remaining : Nat} {context : Context}

theorem moments_of_ok (h : outcome (heap.visitAt accept visit index) context = .ok ()) :
    heap.moments accept visit index (remaining + 1) context =
      context :: heap.moments accept visit (index + 1) remaining
        (after (heap.visitAt accept visit index) context) := by
  rw [moments, h]

theorem moments_of_error {fault : Fault}
    (h : outcome (heap.visitAt accept visit index) context = .error fault) :
    heap.moments accept visit index (remaining + 1) context = [context] := by
  rw [moments, h]

theorem visitAt_of_decode_fault (accept : RegionFilter) (visit : Region → Probe Unit) {fault : Fault}
    (h : outcome (heap.regionAt index) context = .error fault) :
    outcome (heap.visitAt accept visit index) context = .error fault ∧
      after (heap.visitAt accept visit index) context = after (heap.regionAt index) context := by
  unfold visitAt
  rw [outcome_bind, after_bind, h]
  exact ⟨rfl, rfl⟩

theorem visitAt_of_admitted (visit : Region → Probe Unit) {region : Region}
    (h : outcome (heap.regionAt index) context = .ok region) (ha : accept region.state) :
    outcome (heap.visitAt accept visit index) context =
        outcome (visit region) (after (heap.regionAt index) context) ∧
      after (heap.visitAt accept visit index) context =
        after (visit region) (after (heap.regionAt index) context) := by
  unfold visitAt
  rw [outcome_bind, after_bind, h]
  simp [ha]

theorem visitAt_of_passed (visit : Region → Probe Unit) {region : Region}
    (h : outcome (heap.regionAt index) context = .ok region) (ha : ¬ accept region.state) :
    outcome (heap.visitAt accept visit index) context = .ok () ∧
      after (heap.visitAt accept visit index) context = after (heap.regionAt index) context := by
  unfold visitAt
  rw [outcome_bind, after_bind, h]
  simp [ha]

/-- An index that goes wrong ends the walk, whether its region was handed out or not. -/
theorem walkFrom_of_error {fault : Fault}
    (h : outcome (heap.visitAt accept visit index) context = .error fault) :
    heap.walkFrom accept visit index (remaining + 1) context =
      .ok ⟨(heap.handedOut accept index context).toList, .error fault⟩
        (heap.leftAt accept visit index context) := by
  unfold walkFrom handedOut leftAt
  rw [bind_of_ok (attempt_run _ _)]
  cases hd : outcome (heap.regionAt index) context with
  | error fault' =>
    obtain ⟨ho, hl⟩ := visitAt_of_decode_fault accept visit hd
    cases ho.symm.trans h
    have hn := finds_noteAbort ((after (heap.regionAt index) context).scene 0) index fault
    dsimp only
    rw [bind_of_ok (hn.ok rfl), hl]
    rfl
  | ok region =>
    by_cases ha : accept region.state
    · obtain ⟨ho, hl⟩ := visitAt_of_admitted visit hd ha
      dsimp only
      rw [if_pos ha, if_pos ha, bind_of_ok (attempt_run _ _), ← ho, h, hl]
      simp [abortRecords]
      rfl
    · obtain ⟨ho, -⟩ := visitAt_of_passed visit hd ha
      cases ho.symm.trans h

theorem walkFrom_of_ok (h : outcome (heap.visitAt accept visit index) context = .ok ())
    {rest : Walk} {last : Context}
    (hrest : heap.walkFrom accept visit (index + 1) remaining
      (after (heap.visitAt accept visit index) context) = .ok rest last) :
    heap.walkFrom accept visit index (remaining + 1) context =
      .ok ⟨(heap.handedOut accept index context).toList ++ rest.visited, rest.outcome⟩ last := by
  unfold walkFrom handedOut
  rw [bind_of_ok (attempt_run _ _)]
  cases hd : outcome (heap.regionAt index) context with
  | error fault =>
    obtain ⟨ho, -⟩ := visitAt_of_decode_fault accept visit hd
    cases ho.symm.trans h
  | ok region =>
    by_cases ha : accept region.state
    · obtain ⟨ho, hl⟩ := visitAt_of_admitted visit hd ha
      dsimp only
      rw [hl] at hrest
      rw [if_pos ha, if_pos ha, bind_of_ok (attempt_run _ _), ← ho, h]
      dsimp only
      rw [bind_of_ok hrest]
      rfl
    · obtain ⟨-, hl⟩ := visitAt_of_passed visit hd ha
      dsimp only
      rw [hl] at hrest
      rw [if_neg ha, if_neg ha, hrest]
      rfl

theorem length_moments_le (index remaining : Nat) (context : Context) :
    (heap.moments accept visit index remaining context).length ≤ remaining := by
  induction remaining generalizing index context with
  | zero => simp [moments]
  | succ remaining ih =>
    cases h : outcome (heap.visitAt accept visit index) context with
    | error fault => simp [moments_of_error h]
    | ok _ =>
      rw [moments_of_ok h, List.length_cons]
      exact Nat.succ_le_succ (ih _ _)

theorem moments_next {i : Nat}
    (hi : i + 1 < (heap.moments accept visit index remaining context).length) :
    let moments := heap.moments accept visit index remaining context
    outcome (heap.visitAt accept visit (index + i)) moments[i] = .ok () ∧
      moments[i + 1] = after (heap.visitAt accept visit (index + i)) moments[i] := by
  induction remaining generalizing index context i with
  | zero => simp [moments] at hi
  | succ remaining ih =>
    cases h : outcome (heap.visitAt accept visit index) context with
    | error fault => simp [moments_of_error h] at hi
    | ok _ =>
      simp only [moments_of_ok h] at hi ⊢
      rw [List.length_cons, Nat.add_lt_add_iff_right] at hi
      cases i with
      | zero =>
        refine ⟨h, ?_⟩
        cases remaining with
        | zero => simp [moments] at hi
        | succ remaining => simp [moments]
      | succ i =>
        have := ih hi
        simpa [Nat.add_assoc, Nat.add_comm 1] using this

/-- How a walk ends: well where every index went well, and otherwise with the fault of its last
moment. Nothing happens after the last index. -/
inductive Ends (heap : Heap) (accept : RegionFilter) (visit : Region → Probe Unit)
    (index remaining : Nat) (moments : List Context) : Except Fault Unit → Context → Prop where
  | well {last : Context} (hlength : moments.length = remaining)
      (hall : ∀ i (h : i < moments.length),
        outcome (heap.visitAt accept visit (index + i)) moments[i] = .ok ())
      (hlast : ∀ i (h : i < moments.length), i + 1 = moments.length →
        last = after (heap.visitAt accept visit (index + i)) moments[i]) :
      Ends heap accept visit index remaining moments (.ok ()) last
  | badly {fault : Fault} {i : Nat} (h : i < moments.length) (hlength : moments.length = i + 1)
      (hfault : outcome (heap.visitAt accept visit (index + i)) moments[i] = .error fault) :
      Ends heap accept visit index remaining moments (.error fault)
        (heap.leftAt accept visit (index + i) moments[i])

theorem Ends.cons {moments : List Context} {ending : Except Fault Unit} {last : Context}
    (h : outcome (heap.visitAt accept visit index) context = .ok ())
    (hnil : moments = [] → last = after (heap.visitAt accept visit index) context)
    (hrest : heap.Ends accept visit (index + 1) remaining moments ending last) :
    heap.Ends accept visit index (remaining + 1) (context :: moments) ending last := by
  cases hrest with
  | well hlength hall hlast =>
    refine .well (by simp [hlength]) ?_ ?_
    · intro i hi
      cases i with
      | zero => exact h
      | succ i => simpa [Nat.add_assoc, Nat.add_comm 1] using hall i (by simpa using hi)
    · intro i hi hl
      cases i with
      | zero => exact hnil (by simpa using hl)
      | succ i =>
        have := hlast i (by simpa using hi) (by simpa using hl)
        simpa [Nat.add_assoc, Nat.add_comm 1] using this
  | @badly fault i hi hlength hfault =>
    have hi' : i + 1 < (context :: moments).length := by simpa using hi
    have hfault' : outcome (heap.visitAt accept visit (index + (i + 1)))
        (context :: moments)[i + 1] = .error fault := by
      simpa [Nat.add_assoc, Nat.add_comm 1] using hfault
    have hends : heap.Ends accept visit index (remaining + 1) (context :: moments) _ _ :=
      .badly hi' (by simp [hlength]) hfault'
    simpa [Nat.add_assoc, Nat.add_comm 1] using hends

/-- A walk hands out what its moments do, and ends as they do. -/
theorem walkFrom_moments (index remaining : Nat) (context : Context) :
    let moments := heap.moments accept visit index remaining context
    ∃ walk last, heap.walkFrom accept visit index remaining context = .ok walk last ∧
      walk.visited = (moments.zipIdx index).filterMap (fun moment =>
        heap.handedOut accept moment.2 moment.1) ∧
      (moments = [] → last = context) ∧
      heap.Ends accept visit index remaining moments walk.outcome last := by
  induction remaining generalizing index context with
  | zero =>
    refine ⟨_, _, rfl, rfl, fun _ => rfl, .well rfl ?_ ?_⟩ <;> simp [moments]
  | succ remaining ih =>
    cases h : outcome (heap.visitAt accept visit index) context with
    | error fault =>
      have hm : heap.moments accept visit index (remaining + 1) context = [context] :=
        moments_of_error h
      have hends : heap.Ends accept visit index (remaining + 1) [context] _ _ :=
        @Ends.badly heap accept visit index (remaining + 1) [context] fault 0 Nat.zero_lt_one rfl h
      simp only [hm]
      refine ⟨_, _, walkFrom_of_error h, ?_, by simp, hends⟩
      cases hh : heap.handedOut accept index context <;> simp [hh]
    | ok _ =>
      obtain ⟨walk, last, hw, hv, hn, he⟩ := ih (index + 1)
        (after (heap.visitAt accept visit index) context)
      simp only [moments_of_ok h, List.zipIdx_cons]
      refine ⟨_, _, walkFrom_of_ok h hw, ?_, by simp, he.cons h hn⟩
      cases hh : heap.handedOut accept index context <;> simp [hv, hh]

theorem Ends.of_fault {ending : Except Fault Unit} {last : Context}
    (he : heap.Ends accept visit index remaining
      (heap.moments accept visit index remaining context) ending last)
    {i : Nat} (hi : i < (heap.moments accept visit index remaining context).length) {fault : Fault}
    (hf : outcome (heap.visitAt accept visit (index + i))
      (heap.moments accept visit index remaining context)[i] = .error fault) :
    ending = .error fault ∧ last = heap.leftAt accept visit (index + i)
      (heap.moments accept visit index remaining context)[i] := by
  have hend : ¬ i + 1 < (heap.moments accept visit index remaining context).length := by
    intro hlt
    cases (moments_next hlt).1.symm.trans hf
  cases he with
  | well hlength hall _ => cases (hall i hi).symm.trans hf
  | @badly fault' j hj hlength hfault =>
    obtain rfl : i = j := by omega
    cases hfault.symm.trans hf
    exact ⟨rfl, rfl⟩

theorem Ends.goes_on {ending : Except Fault Unit} {last : Context} {moments : List Context}
    (he : heap.Ends accept visit index remaining moments ending last) {i : Nat}
    (hi : i < moments.length) (hr : i + 1 < remaining)
    (ho : outcome (heap.visitAt accept visit (index + i)) moments[i] = .ok ()) :
    i + 1 < moments.length := by
  cases he with
  | well hlength _ _ => omega
  | @badly fault j hj hlength hfault =>
    have hne : i ≠ j := by
      rintro rfl
      cases hfault.symm.trans ho
    omega

theorem regionAt_of_shrunk {count : Int} (hcount : outcome heap.numRegions context = .ok count)
    (hle : count ≤ index) :
    outcome (heap.regionAt index) context = .error (.ofIndex index (some count)) ∧
      after (heap.regionAt index) context = after heap.numRegions context := by
  have h0 : require (0 ≤ (index : Int)) (.ofIndex index none) context = .ok () context := by
    rw [require, if_pos (Int.natCast_nonneg index)]
    rfl
  have hlt : require ((index : Int) < count) (.ofIndex index (some count)) =
      (throw (.ofIndex index (some count)) : Probe Unit) := by
    rw [require, if_neg (by omega)]
  unfold regionAt
  rw [outcome_bind_of_ok h0, after_bind_of_ok h0, outcome_bind, after_bind, hcount]
  dsimp only
  rw [hlt]
  exact ⟨rfl, rfl⟩

theorem regionAt_of_detached (h : context.phase heap.session.id = .detached) :
    outcome (heap.regionAt index) context = .error .sessionDetached ∧
      after (heap.regionAt index) context = context := by
  have hrefuses : heap.Refuses (context.scene heap.session.id) .sessionDetached := by
    refine ⟨rfl, ?_⟩
    simp [Context.scene, h, SessionPhase.answer]
  have hfinds := hrefuses.regionAt index
  rw [if_pos (Int.natCast_nonneg index)] at hfinds
  rw [hfinds.outcome_eq rfl, hfinds.after_eq rfl]
  simp

theorem handedOut_eq_some {region : Region} :
    heap.handedOut accept index context = some region ↔
      outcome (heap.regionAt index) context = .ok region ∧ accept region.state = true := by
  unfold handedOut
  cases hd : outcome (heap.regionAt index) context with
  | error fault => simp
  | ok region' =>
    by_cases ha : accept region'.state
    · simp only [if_pos ha, Option.some.injEq, Except.ok.injEq]
      constructor
      · rintro rfl
        exact ⟨rfl, ha⟩
      · exact fun h => h.1
    · simp only [if_neg ha, Except.ok.injEq, reduceCtorEq, false_iff, not_and]
      rintro rfl
      exact ha

theorem handedOut_ascending (moments : List Context) (index : Nat) :
    ((moments.zipIdx index).filterMap fun moment =>
      heap.handedOut accept moment.2 moment.1).Pairwise
        fun first second => first.index < second.index := by
  apply List.pairwise_filterMap.mpr
  apply List.pairwise_iff_getElem.mpr
  intro i j hi hj hij first hfirst second hsecond
  rw [handedOut_eq_some] at hfirst hsecond
  have hf := heap.regionAt_yields_index _ _ _ hfirst.1
  have hs := heap.regionAt_yields_index _ _ _ hsecond.1
  simp only [List.getElem_zipIdx] at hf hs
  omega

theorem mem_handedOut {moments : List Context} {region : Region} :
    (region ∈ moments.zipIdx.filterMap fun moment => heap.handedOut accept moment.2 moment.1) ↔
      ∃ (i : Nat) (h : i < moments.length), region.index = i ∧
        outcome (heap.regionAt i) moments[i] = .ok region ∧ accept region.state = true := by
  rw [List.mem_filterMap]
  constructor
  · rintro ⟨⟨moment, i⟩, hm, hh⟩
    have hget : moments[i]? = some moment := List.mem_zipIdx_iff_getElem?.mp hm
    obtain ⟨hi, rfl⟩ := List.getElem?_eq_some_iff.mp hget
    rw [handedOut_eq_some] at hh
    exact ⟨i, hi, heap.regionAt_yields_index _ _ _ hh.1, hh⟩
  · rintro ⟨i, hi, -, hh⟩
    refine ⟨(moments[i], i), List.mem_zipIdx_iff_getElem?.mpr ?_, handedOut_eq_some.mpr hh⟩
    exact List.getElem?_eq_getElem hi

theorem decoded_of_visitAt (h : outcome (heap.visitAt accept visit index) context = .ok ()) :
    ∃ region, outcome (heap.regionAt index) context = .ok region := by
  cases hd : outcome (heap.regionAt index) context with
  | error fault => cases (visitAt_of_decode_fault accept visit hd).1.symm.trans h
  | ok region => exact ⟨region, rfl⟩

end Moments

/-- How a walk goes that sets out over `count` regions, whatever its visitor does. Index `i` is
decoded in the moment `i` and at no other time. -/
structure Course (heap : Heap) (accept : RegionFilter) (visit : Region → Probe Unit) (count : Int)
    (start : Context) (moments : List Context) (walk : Walk) (last : Context) : Prop where
  /-- No index from the count on is decoded, even if the count has grown. -/
  bounded : moments.length ≤ count.toNat
  next : ∀ i (h : i + 1 < moments.length),
    moments[i + 1] = after (heap.visitAt accept visit i) moments[i]
  ascending : walk.visited.Pairwise fun first second => first.index < second.index
  /-- What is handed out is what its index holds at its moment. -/
  current : ∀ region, region ∈ walk.visited ↔
    ∃ (i : Nat) (h : i < moments.length), region.index = i ∧
      outcome (heap.regionAt i) moments[i] = .ok region ∧ accept region.state = true
  undecoded : ∀ i (h : i < moments.length) fault,
    outcome (heap.regionAt i) moments[i] = .error fault →
      walk.outcome = .error fault ∧
      last = (after (heap.regionAt i) moments[i]).note [] (abortRecords i (.error fault))
  /-- An index that the count no longer covers is not looked up. -/
  shrunk : ∀ i (h : i < moments.length) (covered : Int),
    outcome heap.numRegions moments[i] = .ok covered → covered ≤ i →
      walk.outcome = .error (.ofIndex i (some covered)) ∧
      last = after heap.numRegions moments[i]
  detached : ∀ (i : Nat) (h : i < moments.length), i + 1 < count →
    outcome (heap.visitAt accept visit i) moments[i] = .ok () →
    (after (heap.visitAt accept visit i) moments[i]).phase heap.session.id = .detached →
      walk.outcome = .error .sessionDetached ∧
      last = after (heap.visitAt accept visit i) moments[i]
  raised : ∀ i (h : i < moments.length) region fault,
    outcome (heap.regionAt i) moments[i] = .ok region → accept region.state = true →
    outcome (visit region) (after (heap.regionAt i) moments[i]) = .error fault →
      walk.outcome = .error fault ∧
      last = after (visit region) (after (heap.regionAt i) moments[i])
  complete : walk.outcome = .ok () → moments.length = count.toNat ∧
    ∀ i (h : i < moments.length), ∃ region, outcome (heap.regionAt i) moments[i] = .ok region
  /-- A walk that ends well does no more after its last index than to note its end. -/
  finished : walk.outcome = .ok () → ∃ left : Context,
    last = left.note [] (endRecords count walk.visited (.ok ())) ∧
    (moments = [] → left = start) ∧
    ∀ i (h : i < moments.length), i + 1 = moments.length →
      left = after (heap.visitAt accept visit i) moments[i]

section Course

variable {heap accept visit}

/-- A walk that goes wrong at an index is over there, and notes no end. -/
theorem Ends.stops_at {count : Int} {start left : Context} {walk : Walk}
    (he : heap.Ends accept visit 0 count.toNat (heap.moments accept visit 0 count.toNat start)
      walk.outcome left) {i : Nat}
    (hi : i < (heap.moments accept visit 0 count.toNat start).length) {fault : Fault}
    (hf : outcome (heap.visitAt accept visit i)
      (heap.moments accept visit 0 count.toNat start)[i] = .error fault) :
    walk.outcome = .error fault ∧
      left.note [] (endRecords count walk.visited walk.outcome) =
        heap.leftAt accept visit i (heap.moments accept visit 0 count.toNat start)[i] := by
  obtain ⟨hw, hl⟩ := he.of_fault hi (by simpa using hf)
  simp only [Nat.zero_add] at hl
  rw [hw, hl]
  exact ⟨rfl, Context.note_nil _⟩

theorem Ends.stops_undecoded {count : Int} {start left : Context} {walk : Walk}
    (he : heap.Ends accept visit 0 count.toNat (heap.moments accept visit 0 count.toNat start)
      walk.outcome left) {i : Nat}
    (hi : i < (heap.moments accept visit 0 count.toNat start).length) {fault : Fault}
    (hd : outcome (heap.regionAt i)
      (heap.moments accept visit 0 count.toNat start)[i] = .error fault) :
    walk.outcome = .error fault ∧
      left.note [] (endRecords count walk.visited walk.outcome) =
        (after (heap.regionAt i) (heap.moments accept visit 0 count.toNat start)[i]).note []
          (abortRecords i (.error fault)) := by
  obtain ⟨ho, ha⟩ := visitAt_of_decode_fault accept visit hd
  obtain ⟨hw, hl⟩ := he.stops_at hi ho
  rw [hl, leftAt, ha, hd]
  exact ⟨hw, rfl⟩

theorem Ends.course {count : Int} {start left : Context} {walk : Walk}
    (hvisited : walk.visited = (heap.moments accept visit 0 count.toNat start).zipIdx.filterMap
      fun moment => heap.handedOut accept moment.2 moment.1)
    (hstart : heap.moments accept visit 0 count.toNat start = [] → left = start)
    (he : heap.Ends accept visit 0 count.toNat (heap.moments accept visit 0 count.toNat start)
      walk.outcome left) :
    heap.Course accept visit count start (heap.moments accept visit 0 count.toNat start) walk
      (left.note [] (endRecords count walk.visited walk.outcome)) := by
  have hnext := @moments_next heap accept visit 0 count.toNat start
  have hon := @Ends.goes_on heap accept visit 0 count.toNat _ _ _ he
  simp only [Nat.zero_add] at hnext hon
  constructor
  case bounded => exact length_moments_le 0 _ start
  case next => exact fun i hi => (hnext hi).2
  case ascending =>
    rw [hvisited]
    exact handedOut_ascending _ 0
  case current =>
    intro region
    rw [hvisited]
    exact mem_handedOut
  case undecoded => exact fun i hi fault hd => he.stops_undecoded hi hd
  case shrunk =>
    intro i hi covered hc hle
    obtain ⟨ho, ha⟩ := regionAt_of_shrunk hc hle
    obtain ⟨hw, hl⟩ := he.stops_undecoded hi ho
    refine ⟨hw, ?_⟩
    have hrecords : abortRecords i (.error (.ofIndex i (some covered))) = [] := by
      unfold Fault.ofIndex
      split <;> rfl
    rw [hl, ha, hrecords]
    exact Context.note_nil _
  case detached =>
    intro i hi hmore ho hp
    have hi' := hon hi (by omega) ho
    have hm := (hnext hi').2
    rw [← hm] at hp ⊢
    obtain ⟨hd, ha⟩ := @regionAt_of_detached heap (i + 1) _ hp
    obtain ⟨hw, hl⟩ := he.stops_undecoded hi' hd
    refine ⟨hw, ?_⟩
    rw [hl, ha]
    exact Context.note_nil _
  case raised =>
    intro i hi region fault hd ha hv
    obtain ⟨ho, ha'⟩ := visitAt_of_admitted visit hd ha
    obtain ⟨hw, hl⟩ := he.stops_at hi (ho.trans hv)
    refine ⟨hw, ?_⟩
    rw [hl, leftAt, ha', hd]
    exact Context.note_nil _
  case complete =>
    intro hok
    rw [hok] at he
    cases he with
    | well hlength hall _ =>
      refine ⟨hlength, ?_⟩
      intro i hi
      have := hall i hi
      rw [Nat.zero_add] at this
      exact decoded_of_visitAt this
  case finished =>
    intro hok
    rw [hok] at he ⊢
    cases he with
    | well _ _ hlast =>
      simp only [Nat.zero_add] at hlast
      exact ⟨left, rfl, hstart, hlast⟩

/-- An index that the count no longer covers is named with that count, where both were read as
words. -/
theorem Course.shrunk_of_reader {inferior : Inferior} {kept : Int}
    (hr : heap.session.reader = inferior.readerOfSize kept) {context : Context} {count : Int}
    (hcount : outcome heap.numRegions context = .ok count) {start last : Context}
    {moments : List Context} {walk : Walk}
    (h : heap.Course accept visit count start moments walk last) {i : Nat} (hi : i < moments.length)
    {covered : Int} (hcovered : outcome heap.numRegions moments[i] = .ok covered)
    (hle : covered ≤ i) : walk.outcome = .error (.regionIndex i (some covered)) := by
  have hbound := h.bounded
  obtain ⟨hcount0, hcountlt⟩ := Heap.readAt_yields hr _ context count hcount
  have hindex : IsWord i := ⟨by omega, by omega⟩
  rw [(h.shrunk i hi covered hcovered hle).1,
    Fault.ofIndex_some hindex.hasNumeral (Heap.readAt_yields hr _ _ covered hcovered)]

end Course

/-- **A walk with any visitor.** Whatever filter and visitor a walk has, and whatever the visitor
does to the target's memory, the session or the walk itself, the count that was read at the start
bounds the walk, which takes one index after the other and stops at the first that goes wrong. If
the count cannot be read, nothing is handed out. Over a debugger's reader, an index that the count
no longer covers ends the walk with a fault that names both. -/
theorem walk_survives_visitor (context : Context) :
    (∀ fault, outcome heap.numRegions context = .error fault →
      heap.walk accept visit context = .ok ⟨[], .error fault⟩ (after heap.numRegions context) ∧
      outcome (heap.iterate visit accept) context = .error fault ∧
      after (heap.iterate visit accept) context = after heap.numRegions context) ∧
    ∀ count, outcome heap.numRegions context = .ok count →
      let start := (after heap.numRegions context).note [] (startRecords count)
      ∃ walk last, heap.walk accept visit context = .ok walk last ∧
        outcome (heap.iterate visit accept) context = walk.outcome ∧
        after (heap.iterate visit accept) context = last ∧
        heap.Course accept visit count start (heap.moments accept visit 0 count.toNat start) walk
          last ∧
        ∀ inferior kept, heap.session.reader = Inferior.readerOfSize inferior kept →
          ∀ i (h : i < (heap.moments accept visit 0 count.toNat start).length) (covered : Int),
            outcome heap.numRegions (heap.moments accept visit 0 count.toNat start)[i] =
              .ok covered → covered ≤ i →
            walk.outcome = .error (.regionIndex i (some covered)) := by
  have hrun := attempt_run heap.numRegions context
  constructor
  · intro fault hf
    have hw : heap.walk accept visit context =
        .ok ⟨[], .error fault⟩ (after heap.numRegions context) := by
      unfold walk
      rw [bind_of_ok hrun, hf]
      rfl
    exact ⟨hw, iterate_of_walk hw⟩
  · intro count hc start
    obtain ⟨walk, left, hfrom, hvisited, hstart, hends⟩ :=
      @walkFrom_moments heap accept visit 0 count.toNat start
    have hlog : (log .debug .walk s!"Walking {decimal count} regions").Finds
      ((after heap.numRegions context).scene 0) ⟨.ok (), [], startRecords count⟩ := .log _ _ _
    have hend := finds_noteEnd (left.scene 0) count walk
    have hw : heap.walk accept visit context =
        .ok walk (left.note [] (endRecords count walk.visited walk.outcome)) := by
      unfold Heap.walk
      rw [bind_of_ok hrun, hc]
      dsimp only
      rw [bind_of_ok (hlog.ok rfl), bind_of_ok hfrom, bind_of_ok (hend.ok rfl)]
      rfl
    obtain ⟨ho, ha⟩ := iterate_of_walk hw
    have hcourse := hends.course hvisited hstart
    exact ⟨walk, _, hw, ho, ha, hcourse, fun _ _ hr _ hi _ hcovered hle =>
      hcourse.shrunk_of_reader hr hc hi hcovered hle⟩

end Heap

/-- A visitor that detaches the session at the first of two regions ends the walk. The eight reads
are those of the count and of the first region. -/
theorem iterate_with_detaching_visitor :
    outcome (tornHeap.iterate (fun _ => tornHeap.session.detach) .everything) tornContext =
        .error .sessionDetached ∧
      (after (tornHeap.iterate (fun _ => tornHeap.session.detach) .everything)
        tornContext).journal.calls.size = 8 := by
  obtain ⟨walk, last, -, ho, ha, hcourse, -⟩ := (Heap.walk_survives_visitor tornHeap .everything
    (fun _ => tornHeap.session.detach) tornContext).2 2 rfl
  obtain ⟨hw, hl⟩ := hcourse.detached 0 (Nat.zero_lt_succ _) (by decide) rfl rfl
  rw [ho, ha, hw, hl]
  exact ⟨rfl, rfl⟩

end HeapProbe
