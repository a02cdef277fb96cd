import Crynet.Foundation.AtomicVariable
import Crynet.Metrics.MetricsSystem
import Mathlib.Data.UInt
import Mathlib.Tactic.Common

/-!
# Observers of the peak queue depth

`observe_queue_depth` may run on any number of threads at once.  Each call loads
the peak, and as long as what it has seen is smaller than its depth it tries to
exchange one for the other.  `snapshot` loads the peak and leaves it alone.

An exchange that succeeds has compared with the latest value, so a stale load
can make a call try in vain but not overwrite a greater peak; a call that gives
up has seen a value at least its depth, and the peak has not fallen since.
-/

namespace Crynet

open Atomic

/-- The calls that touch `m_peak_queue_depth`. -/
inductive PeakOperation where
  | observeQueueDepth (depth : UInt64)
  | snapshot
  deriving DecidableEq, Repr

inductive PeakPhase where
  | entered
  | comparing (currentPeak : UInt64)
  | returned
  | reported (peakQueueDepth : UInt64)
  deriving DecidableEq, Repr

namespace MetricsSystem

/-- The condition of the loop, once `current_peak` has been read. -/
def testPeak (depth currentPeak : UInt64) : PeakPhase :=
  if currentPeak < depth then .comparing currentPeak else .returned

/-- `observe_queue_depth` and `snapshot`, as far as they touch the peak. -/
def peakProcedure : Procedure UInt64 PeakPhase PeakOperation where
  enter _ := .entered
  next
    | .observeQueueDepth depth, .entered => .load (testPeak depth)
    | .observeQueueDepth depth, .comparing currentPeak =>
        .compareExchangeWeak currentPeak depth fun
          | .stored => .returned
          | .refused seen => testPeak depth seen
    | .snapshot, .entered => .load .reported
    | _, _ => .returned

/-- Depths that have been handed to `observe_queue_depth`. -/
def observedDepths (operations : List PeakOperation) : List UInt64 :=
  operations.filterMap fun
    | .observeQueueDepth depth => some depth
    | .snapshot => none

/-- The peak is the greatest value it has held, not below a floor, and each of
its values has been there initially or been observed. -/
structure PeakSound (initial floor : UInt64) (depths : List UInt64)
    (peak : Variable UInt64) : Prop where
  floor : floor ≤ peak.latest
  greatest : ∀ value ∈ peak.history, value ≤ peak.latest
  origin : ∀ value ∈ peak.history, value = initial ∨ value ∈ depths

/-- What a call can rely on. -/
def PeakClaim (depths : List UInt64) (peak : Variable UInt64) :
    PeakOperation → PeakPhase → Prop
  | .observeQueueDepth depth, .entered => depth ∈ depths
  | .observeQueueDepth depth, .comparing currentPeak =>
      depth ∈ depths ∧ currentPeak < depth
  | .observeQueueDepth depth, .returned => depth ≤ peak.latest
  | .snapshot, .entered => True
  | .snapshot, .reported peakQueueDepth => peakQueueDepth ∈ peak.history
  | _, _ => False

/-- The assertion of the calls on the peak. -/
def peakAssertion (initial floor : UInt64) :
    Assertion UInt64 PeakPhase PeakOperation where
  sound operations peak :=
    PeakSound initial floor (observedDepths operations) peak
  claims operations peak operation phase :=
    PeakClaim (observedDepths operations) peak operation phase

variable {initial floor depth seen : UInt64} {depths : List UInt64}
variable {peak next : Variable UInt64}

/-- Whatever value of the peak a call has read, it goes on as it should. -/
theorem claim_testPeak (sound : PeakSound initial floor depths peak)
    (observed : depth ∈ depths) (read : seen ∈ peak.history) :
    PeakClaim depths peak (.observeQueueDepth depth)
      (testPeak depth seen) := by
  unfold testPeak
  split
  · rename_i smaller
    exact ⟨observed, smaller⟩
  · rename_i enough
    have reached := sound.greatest seen read
    exact UInt64.le_trans (UInt64.not_lt.mp enough) reached

/-- A depth replaces a smaller latest value. -/
theorem PeakSound.store (sound : PeakSound initial floor depths peak)
    (observed : depth ∈ depths) (greater : peak.latest < depth) :
    PeakSound initial floor depths (peak.store depth) := by
  have risen : peak.latest ≤ depth := UInt64.le_of_lt greater
  constructor
  · exact UInt64.le_trans sound.floor risen
  · intro value member
    rcases Variable.mem_store_iff.mp member with rfl | old
    · exact UInt64.le_refl _
    · exact UInt64.le_trans (sound.greatest value old) risen
  · intro value member
    rcases Variable.mem_store_iff.mp member with rfl | old
    · exact Or.inr observed
    · exact sound.origin value old

/-- What other calls rely on survives a store. -/
theorem PeakClaim.store {operation : PeakOperation} {phase : PeakPhase}
    (claim : PeakClaim depths peak operation phase)
    (greater : peak.latest < depth) :
    PeakClaim depths (peak.store depth) operation phase := by
  cases operation with
  | observeQueueDepth own =>
      cases phase with
      | returned => exact UInt64.le_trans claim (UInt64.le_of_lt greater)
      | _ => exact claim
  | snapshot =>
      cases phase with
      | reported peakQueueDepth =>
          exact Variable.mem_store_iff.mpr (Or.inr claim)
      | _ => exact claim

theorem PeakSound.more (sound : PeakSound initial floor depths peak)
    {more : List UInt64} (kept : ∀ value ∈ depths, value ∈ more) :
    PeakSound initial floor more peak :=
  ⟨sound.floor, sound.greatest, fun value member =>
    (sound.origin value member).imp id (kept value)⟩

theorem PeakClaim.more {operation : PeakOperation} {phase : PeakPhase}
    (claim : PeakClaim depths peak operation phase)
    {more : List UInt64} (kept : ∀ value ∈ depths, value ∈ more) :
    PeakClaim more peak operation phase := by
  cases operation with
  | observeQueueDepth own =>
      cases phase with
      | entered => exact kept own claim
      | comparing currentPeak => exact ⟨kept own claim.1, claim.2⟩
      | _ => exact claim
  | snapshot =>
      cases phase with
      | _ => exact claim

/-- No move of any call takes away what another relies on. -/
theorem peak_stable (initial floor : UInt64) :
    (peakAssertion initial floor).Stable peakProcedure := by
  constructor
  · intro operations peak operation sound
    have kept : ∀ value ∈ observedDepths operations,
        value ∈ observedDepths (operations ++ [operation]) := by
      intro value member
      rw [observedDepths, List.filterMap_append]
      exact List.mem_append_left _ member
    refine ⟨sound.more kept, ?_, fun other phase claim => claim.more kept⟩
    cases operation with
    | observeQueueDepth depth =>
        show depth ∈ observedDepths (operations ++ [.observeQueueDepth depth])
        simp [observedDepths]
    | snapshot => exact trivial
  · intro operations peak operation phase resume seen sound claim
      instruction read
    cases operation with
    | observeQueueDepth depth =>
        cases phase with
        | entered =>
            cases instruction
            exact claim_testPeak sound claim read
        | _ => cases instruction
    | snapshot =>
        cases phase with
        | entered =>
            cases instruction
            exact read
        | _ => cases instruction
  · intro operations peak next operation phase expected desired resume outcome
      sound claim instruction exchanged
    cases operation with
    | observeQueueDepth depth =>
        cases phase with
        | comparing currentPeak =>
            cases instruction
            obtain ⟨observed, smaller⟩ := claim
            cases exchanged with
            | stored latest =>
                rw [latest] at smaller
                refine ⟨sound.store observed smaller, ?_,
                  fun other phase claim => claim.store smaller⟩
                exact UInt64.le_refl _
            | refused _ =>
                exact ⟨sound, claim_testPeak sound observed peak.latest_mem,
                  fun _ _ claim => claim⟩
            | spurious read =>
                exact ⟨sound, claim_testPeak sound observed read,
                  fun _ _ claim => claim⟩
        | _ => cases instruction
    | snapshot =>
        cases phase with
        | _ => cases instruction

/-- The peak before any call has been entered. -/
def peakStart (initial : UInt64) :
    Pool UInt64 PeakPhase PeakOperation :=
  { shared := { latest := initial } }

private theorem peakStart_holds (initial : UInt64) :
    (peakAssertion initial initial).Holds (peakStart initial) := by
  constructor
  · constructor
    · exact UInt64.le_refl initial
    · intro value member
      rw [List.mem_singleton.mp member]
      exact UInt64.le_refl initial
    · intro value member
      exact Or.inl (List.mem_singleton.mp member)
  · intro call member
    cases member

variable {moves later : List (Move UInt64 PeakOperation)}
variable {pool final : Pool UInt64 PeakPhase PeakOperation}

private theorem peak_holds
    (run : Interleaving peakProcedure (peakStart initial) moves pool) :
    (peakAssertion initial initial).Holds pool :=
  (peakStart_holds initial).interleaved (peak_stable initial initial) run

/-- What has been reached is a floor from then on. -/
theorem latest_le
    (run : Interleaving peakProcedure (peakStart initial) moves pool)
    (continued : Interleaving peakProcedure pool later final) :
    pool.shared.latest ≤ final.shared.latest := by
  have before := peak_holds run
  have here : (peakAssertion initial pool.shared.latest).Holds pool :=
    ⟨⟨UInt64.le_refl _, before.sound.greatest, before.sound.origin⟩,
      before.claims⟩
  have after := here.interleaved (peak_stable initial pool.shared.latest)
    continued
  exact after.sound.floor

/-- A call that has returned is accounted for in the peak. -/
theorem observed_le
    (run : Interleaving peakProcedure (peakStart initial) moves pool)
    (returned : pool.Returned peakProcedure)
    (observed : depth ∈ observedDepths pool.arguments) :
    depth ≤ pool.shared.latest := by
  obtain ⟨operation, entered, same⟩ := List.mem_filterMap.mp observed
  obtain ⟨call, member, rfl⟩ := List.mem_map.mp entered
  have claim := (peak_holds run).claims call member
  have done := returned call member
  obtain ⟨operation, phase⟩ := call
  cases operation with
  | observeQueueDepth own =>
      cases same
      cases phase with
      | entered => cases done
      | comparing currentPeak => cases done
      | returned => exact claim
      | reported peakQueueDepth => exact claim.elim
  | snapshot => cases same

/-- What a snapshot reports has been the peak at some time. -/
theorem reported_le
    (run : Interleaving peakProcedure (peakStart initial) moves pool)
    {call : Call PeakPhase PeakOperation} (member : call ∈ pool.calls)
    {peakQueueDepth : UInt64} (reported : call.state = .reported peakQueueDepth) :
    peakQueueDepth ∈ pool.shared.history ∧
      peakQueueDepth ≤ pool.shared.latest := by
  have holds := peak_holds run
  have claim := holds.claims call member
  obtain ⟨operation, phase⟩ := call
  cases reported
  cases operation with
  | observeQueueDepth own => exact claim.elim
  | snapshot => exact ⟨claim, holds.sound.greatest _ claim⟩

private theorem observeQueueDepth_peak (metrics : MetricsSystem) (depth : UInt64) :
    (metrics.observeQueueDepth depth.toNat).peakQueueDepth =
      if metrics.peakQueueDepth < depth then depth
      else metrics.peakQueueDepth := by
  unfold observeQueueDepth
  rw [UInt64.ofNat_toNat]
  split
  · rfl
  · rfl

/-- Observing depths one after the other leaves the greatest of them. -/
theorem observed_greatest (metrics : MetricsSystem) (depths : List UInt64) :
    (depths.foldl (fun metrics depth => metrics.observeQueueDepth depth.toNat)
        metrics).peakQueueDepth ∈ metrics.peakQueueDepth :: depths ∧
      ∀ value ∈ metrics.peakQueueDepth :: depths, value ≤
        (depths.foldl
          (fun metrics depth => metrics.observeQueueDepth depth.toNat)
          metrics).peakQueueDepth := by
  induction depths generalizing metrics with
  | nil => simp
  | cons depth depths induction =>
      obtain ⟨member, greatest⟩ :=
        induction (metrics.observeQueueDepth depth.toNat)
      have rest := fun value listed =>
        greatest value (List.mem_cons_of_mem _ listed)
      have first := greatest _ List.mem_cons_self
      rw [observeQueueDepth_peak] at member first
      split at first
      · rename_i smaller
        rw [if_pos smaller] at member
        refine ⟨List.mem_cons_of_mem _ member, ?_⟩
        intro value listed
        rcases List.mem_cons.mp listed with rfl | listed
        · exact UInt64.le_trans (UInt64.le_of_lt smaller) first
        · rcases List.mem_cons.mp listed with rfl | listed
          · exact first
          · exact rest value listed
      · rename_i enough
        rw [if_neg enough] at member
        constructor
        · rcases List.mem_cons.mp member with same | listed
          · exact List.mem_cons.mpr (Or.inl same)
          · exact List.mem_cons_of_mem _ (List.mem_cons_of_mem _ listed)
        · intro value listed
          rcases List.mem_cons.mp listed with rfl | listed
          · exact first
          · rcases List.mem_cons.mp listed with rfl | listed
            · exact UInt64.le_trans (UInt64.not_lt.mp enough) first
            · exact rest value listed

/-- The calls together do what the same calls do one after the other. -/
theorem peak_sequential (metrics : MetricsSystem)
    (run : Interleaving peakProcedure (peakStart metrics.peakQueueDepth) moves
      pool)
    (returned : pool.Returned peakProcedure) :
    pool.shared.latest =
      ((observedDepths pool.arguments).foldl
        (fun metrics depth => metrics.observeQueueDepth depth.toNat)
        metrics).peakQueueDepth := by
  obtain ⟨member, greatest⟩ :=
    observed_greatest metrics (observedDepths pool.arguments)
  have holds := peak_holds run
  apply UInt64.le_antisymm
  · apply greatest
    exact List.mem_cons.mpr (holds.sound.origin _ pool.shared.latest_mem)
  · rcases List.mem_cons.mp member with same | observed
    · rw [same]
      exact holds.sound.floor
    · exact observed_le run returned observed

/-- No interleaving of the calls loses an observed depth. -/
theorem peak_kept
    (run : Interleaving peakProcedure (peakStart initial) moves pool) :
    (∀ later final, Interleaving peakProcedure pool later final →
        pool.shared.latest ≤ final.shared.latest) ∧
      (∀ value ∈ pool.shared.history,
        value = initial ∨ value ∈ observedDepths pool.arguments) ∧
      (pool.Returned peakProcedure →
        ((initial :: observedDepths pool.arguments).map UInt64.toNat).max? =
          some pool.shared.latest.toNat) := by
  have holds := peak_holds run
  refine ⟨fun later final continued => latest_le run continued,
    holds.sound.origin, ?_⟩
  intro returned
  apply List.max?_eq_some_iff.mpr
  constructor
  · apply List.mem_map_of_mem
    apply List.mem_cons.mpr
    exact holds.sound.origin _ pool.shared.latest_mem
  · intro value member
    obtain ⟨depth, listed, rfl⟩ := List.mem_map.mp member
    rcases List.mem_cons.mp listed with rfl | observed
    · exact UInt64.le_iff_toNat_le.mp holds.sound.floor
    · exact UInt64.le_iff_toNat_le.mp (observed_le run returned observed)

/-- Of two observers that have both loaded zero, the one with the smaller depth
is refused and sees the greater one. -/
theorem peak_kept_raced :
    ∃ (moves : List (Move UInt64 PeakOperation))
      (pool : Pool UInt64 PeakPhase PeakOperation),
      Interleaving peakProcedure (peakStart 0) moves pool ∧
        pool.Returned peakProcedure ∧ pool.shared.latest = 5 ∧
        ((0 :: observedDepths pool.arguments).map UInt64.toNat).max? =
          some 5 := by
  have entered : Interleaving peakProcedure (peakStart 0) _ _ :=
    .snoc (.snoc .nil trivial (.enter (.observeQueueDepth 5))) trivial
      (.enter (.observeQueueDepth 3))
  have slower := entered.snoc trivial
    (@Step.load _ _ _ _ _ 1 ⟨.observeQueueDepth 3, .entered⟩ _ 0 rfl rfl
      List.mem_cons_self)
  have faster := slower.snoc trivial
    (@Step.load _ _ _ _ _ 0 ⟨.observeQueueDepth 5, .entered⟩ _ 0 rfl rfl
      List.mem_cons_self)
  have stored := faster.snoc trivial
    (@Step.exchange _ _ _ _ _ 0 ⟨.observeQueueDepth 5, .comparing 0⟩ 0 5 _ _ _
      rfl rfl (.stored rfl))
  have refused := stored.snoc trivial
    (@Step.exchange _ _ _ _ _ 1 ⟨.observeQueueDepth 3, .comparing 0⟩ 0 3 _ _ _
      rfl rfl (.refused (by decide)))
  have returned : Pool.Returned peakProcedure
      { shared := { latest := 5, earlier := [0] }
        calls := [⟨.observeQueueDepth 5, .returned⟩,
          ⟨.observeQueueDepth 3, .returned⟩] } := by
    intro call member
    rcases List.mem_cons.mp member with rfl | member
    · rfl
    · rw [List.mem_singleton.mp member]
      rfl
  exact ⟨_, _, refused, returned, rfl, (peak_kept refused).2.2 returned⟩

end MetricsSystem

end Crynet
