import Crynet.Actor.DepthHistory
import Crynet.Actor.LoneService
import Mathlib.Algebra.Order.BigOperators.Group.Finset

/-!
# Overload events

The history of depths of a handle is cut into fill cycles where its queue is
empty or absent.  What the counters report is what these histories are worth, up
to the width of the counters: a service that is filled past the first threshold
and emptied again is worth one event each time, and a 64-bit number of events
goes round.
-/

namespace Crynet

open FillCycles (Meter)

namespace Machine

open ActorSystem (metersOf)

variable {machine : Machine} {system : ActorSystem}
variable {now : TimePoint} {actions : List Action}

theorem Holding.pending {handle : ServiceHandle} {depth : Nat}
    (holding : machine.Holding handle depth) :
    machine.system.pendingMessages handle = depth := by
  obtain ⟨_, service, found, _, _, long⟩ := holding.alone.holds
  rw [ActorSystem.pendingMessages_some found, long]

/-- A message to service 1 makes no other queue longer. -/
theorem Holding.send {depth : Nat} (holding : machine.Holding 1 depth) :
    ∃ next, machine.step (.send { targetHandle := 1 }) = .ok next ∧
      next.Holding 1 (depth + 1) ∧ ∀ other, other ≠ 1 →
        next.system.pendingMessages other =
          machine.system.pendingMessages other := by
  refine ⟨_, rfl, ⟨holding.stack, (holding.alone.send rfl).2⟩, ?_⟩
  intro other different
  have same : (machine.system.send { targetHandle := 1 }).2.services.lookup
      other = machine.system.services.lookup other := by
    rcases machine.system.send_cases { targetHandle := 1 } with
      ⟨_, shape⟩ | ⟨_, _, _, _, shape⟩
    · rw [shape]
      rfl
    · rw [shape]
      exact AList.lookup_insert_ne different
  simp only [setSystem, ActorSystem.pendingMessages, same]

/-- Fill the queue of service 1 and empty it again. -/
def flood (size : Nat) : List Action :=
  List.replicate size (.send { targetHandle := 1 }) ++
    (List.replicate size [Action.dispatchOnce, .returns]).flatten

def floods (count size : Nat) : List Action :=
  .registerService [97] :: (List.replicate count (flood size)).flatten

/-- The depths go up one by one. -/
theorem Holding.sends {depth : Nat} (holding : machine.Holding 1 depth)
    (size : Nat) :
    ∃ next,
      Transition.runSteps step machine
        (List.replicate size (.send { targetHandle := 1 })) = .ok next ∧
      next.Holding 1 (depth + size) ∧
      (Transition.observations step passing machine
        (List.replicate size (.send { targetHandle := 1 }))).map
          (fun system => system.pendingMessages 1) = List.range' depth size ∧
      ∀ other, other ≠ 1 → ∀ system ∈ next.system ::
        Transition.observations step passing machine
          (List.replicate size (.send { targetHandle := 1 })),
        system.pendingMessages other =
          machine.system.pendingMessages other := by
  induction size with
  | zero =>
      refine ⟨machine, rfl, holding, rfl, ?_⟩
      intro other _ system member
      rw [List.mem_singleton.mp member]
  | succ size induction =>
      obtain ⟨middle, ran, held, levels, others⟩ := induction
      obtain ⟨next, sent, longer, same⟩ := held.send
      have passes : Transition.observations step passing machine
          (List.replicate (size + 1) (.send { targetHandle := 1 })) =
          Transition.observations step passing machine
            (List.replicate size (.send { targetHandle := 1 })) ++
              [middle.system] := by
        rw [List.replicate_succ', Transition.observations_append _ ran]
        simp only [Transition.observations, sent, List.append_nil]
        rfl
      refine ⟨next, ?_, longer, ?_, ?_⟩
      · rw [List.replicate_succ', Transition.runSteps_append ran,
          Transition.runSteps, sent]
        rfl
      · rw [passes, List.map_append, levels, List.map_singleton, held.pending,
          List.range'_concat, Nat.one_mul]
      · intro other different system member
        have before := others other different
        rw [passes] at member
        rcases List.mem_cons.mp member with rfl | member
        · rw [same other different]
          exact before middle.system List.mem_cons_self
        · rcases List.mem_append.mp member with earlier | last
          · exact before system (List.mem_cons_of_mem _ earlier)
          · rw [List.mem_singleton.mp last]
            exact before middle.system List.mem_cons_self

private theorem observations_head (machine : Machine) {actions : List Action}
    (some : actions ≠ []) :
    ∃ later, Transition.observations step passing machine actions =
      machine.system :: later := by
  cases actions with
  | nil => exact absurd rfl some
  | cons action actions => exact ⟨_, rfl⟩

/-- The history of a flood starts at zero and reaches its size. -/
theorem Holding.flood (holding : machine.Holding 1 0) {size : Nat}
    (some : size ≠ 0) :
    ∃ next, Transition.runSteps step machine (flood size) = .ok next ∧
      next.Holding 1 0 ∧
      ∃ levels,
        (Transition.observations step passing machine (flood size)).map
            (fun system => system.pendingMessages 1) = 0 :: levels ∧
          size ∈ levels := by
  obtain ⟨full, filled, held, _, _⟩ := holding.sends size
  rw [Nat.zero_add] at held
  obtain ⟨next, emptied, empty, _⟩ := held.turns
  refine ⟨next, ?_, empty, ?_⟩
  · rw [Machine.flood, Transition.runSteps_append filled]
    exact emptied
  · have busy : Machine.flood size ≠ [] := by
      simp [Machine.flood, some]
    have busier :
        (List.replicate size [Action.dispatchOnce, .returns]).flatten ≠ [] := by
      simp [some]
    obtain ⟨later, first⟩ := machine.observations_head busy
    obtain ⟨after, middle⟩ := full.observations_head busier
    refine ⟨later.map fun system => system.pendingMessages 1, ?_, ?_⟩
    · rw [first, List.map_cons, holding.pending]
    · have top : full.system ∈ machine.system :: later := by
        rw [← first, Machine.flood, Transition.observations_append _ filled,
          middle]
        exact List.mem_append_right _ List.mem_cons_self
      rcases List.mem_cons.mp top with same | member
      · have depth := held.pending
        rw [same, holding.pending] at depth
        exact absurd depth.symm some
      · rw [← held.pending]
        exact List.mem_map_of_mem member

/-- Each flood is worth what its size is worth. -/
theorem floods_total (count : Nat) {size : Nat} (some : size ≠ 0) :
    ∃ machine,
      Transition.runSteps step (new 0) (floods count size) = .ok machine ∧
      machine.Holding 1 0 ∧
      count * overloads size ≤
        FillCycles.total overloads
          (depths 0 (floods count size) machine 1) := by
  induction count with
  | zero =>
      refine ⟨_, rfl, ⟨rfl, ⟨⟨by decide, _, rfl, rfl, rfl, rfl⟩, rfl, rfl⟩⟩, ?_⟩
      rw [Nat.zero_mul]
      exact Nat.zero_le _
  | succ count induction =>
      obtain ⟨middle, ran, held, before⟩ := induction
      obtain ⟨next, flooded, empty, levels, history, reached⟩ := held.flood some
      have longer : floods (count + 1) size =
          floods count size ++ flood size := by
        simp [floods, List.replicate_succ']
      refine ⟨next, ?_, empty, ?_⟩
      · rw [longer, Transition.runSteps_append ran]
        exact flooded
      · have split : depths 0 (floods (count + 1) size) next 1 =
            (Transition.observations step passing (new 0)
              (floods count size)).map
                (fun system => system.pendingMessages 1) ++ 0 ::
                  (levels ++ [next.system.pendingMessages 1]) := by
          rw [depths, passed, longer, Transition.observations_append _ ran,
            List.map_append, List.map_append, history, List.append_assoc]
          rfl
        have earlier : depths 0 (floods count size) middle 1 =
            (Transition.observations step passing (new 0)
              (floods count size)).map
                (fun system => system.pendingMessages 1) ++ 0 :: [] := by
          rw [depths, passed, List.map_append, ← held.pending]
          rfl
        have rising : Monotone overloads :=
          FillCycles.exceeded_monotone (by decide)
        have more := FillCycles.weight_le_total rising
          (List.mem_append_left [next.system.pendingMessages 1] reached)
        have nothing : FillCycles.total overloads [] = 0 := rfl
        rw [earlier, FillCycles.total_zero, nothing] at before
        rw [split, FillCycles.total_zero, Nat.succ_mul]
        omega

private theorem le_sum (level : ServiceHandle → Nat) (handle : ServiceHandle) :
    level handle ≤ ∑ other, level other := by
  apply Finset.single_le_sum
  · exact fun _ _ => Nat.zero_le _
  · exact Finset.mem_univ handle

/-- The overload counter is the number of thresholds that fill cycles have
passed, as far as 64 bits hold it, and the peak is the greatest depth of a queue
while depths are 64-bit numbers. -/
theorem overloads_counted
    (reached : Reaches Unrestricted now actions machine) :
    machine.system.snapshot.queueOverloadEvents.toNat =
      (∑ handle, FillCycles.total overloads
        (depths now actions machine handle)) % UInt64.size ∧
    ((∀ handle, ∀ depth ∈ depths now actions machine handle,
        depth < UInt64.size) →
      IsGreatest {depth | ∃ handle, depth ∈ depths now actions machine handle}
        machine.system.snapshot.peakQueueDepth.toNat) := by
  have counters := (reaches_metered reached).counters
  have nonempty : ∀ handle, depths now actions machine handle ≠ [] := by
    intro handle
    simp [depths, passed]
  have tops : ∀ handle,
      IsGreatest {depth | depth ∈ depths now actions machine handle}
        (metersOf (passed now actions machine) handle).greatest :=
    fun handle => Meter.greatest_read (nonempty handle)
  constructor
  · have readings : ∀ handle,
        (metersOf (passed now actions machine) handle).reading overloads =
          FillCycles.total overloads (depths now actions machine handle) :=
      fun handle => Meter.reading_read _
    have events := counters.events
    simp only [readings] at events
    show machine.system.metrics.queueOverloadEvents.toNat = _
    rw [events]
    exact UInt64.toNat_ofNat'
  · intro small
    have peak := counters.peak fun handle => small handle _ (tops handle).1
    constructor
    · obtain ⟨handle, attained⟩ := peak.1
      refine ⟨handle, ?_⟩
      show machine.system.metrics.peakQueueDepth.toNat ∈ _
      rw [← attained]
      exact (tops handle).1
    · rintro depth ⟨handle, member⟩
      exact Nat.le_trans ((tops handle).2 member)
        (peak.2 (Set.mem_range_self handle))

private theorem overloads_first : overloads 1025 = 1 := by
  apply Nat.le_antisymm
  · exact (FillCycles.exceeded_le_iff (by decide) 1).mpr (by decide)
  · exact (FillCycles.lt_exceeded_iff (by decide) 0).mpr (by decide)

/-- One service is sent 1025 messages. -/
def filling : List Action :=
  .registerService [97] :: List.replicate 1025 (.send { targetHandle := 1 })

private theorem filling_depths :
    ∃ machine, Transition.runSteps step (new 0) filling = .ok machine ∧
      depths 0 filling machine 1 = [0] ++ 0 :: List.range' 1 1025 ∧
      ∀ other, other ≠ 1 → ∀ depth ∈ depths 0 filling machine other,
        depth = 0 := by
  obtain ⟨started, registered, holding, apart⟩ : ∃ started,
      (new 0).step (.registerService [97]) = .ok started ∧
        started.Holding 1 0 ∧ started.system.services.keys = [1] :=
    ⟨_, rfl, ⟨rfl, ⟨⟨by decide, _, rfl, rfl, rfl, rfl⟩, rfl, rfl⟩⟩, rfl⟩
  obtain ⟨machine, ran, held, levels, others⟩ := holding.sends 1025
  have passes : passed 0 filling machine = (new 0).system ::
      (Transition.observations step passing started
        (List.replicate 1025 (.send { targetHandle := 1 })) ++
          [machine.system]) := by
    simp only [passed, filling, Transition.observations, registered]
    rfl
  refine ⟨machine, ?_, ?_, ?_⟩
  · simp only [filling, Transition.runSteps, registered]
    exact ran
  · have last : [machine.system].map (fun system => system.pendingMessages 1) =
        [0 + 1 * 1025] := by
      rw [List.map_singleton, held.pending, Nat.one_mul]
    rw [depths, passes, List.map_cons, List.map_append, levels, last,
      ← List.range'_concat]
    rfl
  · intro other different depth member
    rw [depths, passes] at member
    obtain ⟨system, inside, rfl⟩ := List.mem_map.mp member
    have absent : started.system.pendingMessages other = 0 := by
      apply ActorSystem.pendingMessages_none
      apply AssociationMap.lookup_none_iff.mpr
      intro known
      rw [AList.mem_keys, apart] at known
      exact different (List.mem_singleton.mp known)
    rcases List.mem_cons.mp inside with rfl | inside
    · rfl
    · rw [← absent]
      apply others other different system
      rcases List.mem_append.mp inside with earlier | last
      · exact List.mem_cons_of_mem _ earlier
      · rw [List.mem_singleton.mp last]
        exact List.mem_cons_self

/-- The message that passes the first threshold is one event. -/
theorem overloads_counted_filling :
    ∃ machine, Reaches Unrestricted 0 filling machine ∧
      machine.system.snapshot.queueOverloadEvents = 1 ∧
      machine.system.snapshot.peakQueueDepth = 1025 := by
  obtain ⟨machine, ran, own, others⟩ := filling_depths
  have reached : Reaches Unrestricted 0 filling machine :=
    Transition.Execution.ofRunSteps ran fun _ _ _ => trivial
  obtain ⟨events, peak⟩ := overloads_counted reached
  have rising : Monotone overloads :=
    FillCycles.exceeded_monotone (by decide)
  have member : 1025 ∈ depths 0 filling machine 1 := by
    rw [own]
    apply List.mem_append_right
    apply List.mem_cons_of_mem
    exact List.mem_range'_1.mpr ⟨by decide, by decide⟩
  have bound : ∀ handle, ∀ depth ∈ depths 0 filling machine handle,
      depth ≤ 1025 := by
    intro handle depth listed
    by_cases first : handle = 1
    · rw [first, own] at listed
      rcases List.mem_append.mp listed with zero | listed
      · rw [List.mem_singleton.mp zero]
        exact Nat.zero_le _
      · rcases List.mem_cons.mp listed with rfl | listed
        · exact Nat.zero_le _
        · exact Nat.le_of_lt_succ (List.mem_range'_1.mp listed).2
    · rw [others handle first depth listed]
      exact Nat.zero_le _
  have one : FillCycles.total overloads (depths 0 filling machine 1) = 1 := by
    have nothing : FillCycles.total overloads [0] = 0 := rfl
    have above := @FillCycles.total_le_of_ne_zero overloads rising
      (List.range' 1 1025) 1025
      (fun zero => absurd (List.mem_range'_1.mp zero).1 (by decide))
      (fun depth listed => Nat.le_of_lt_succ (List.mem_range'_1.mp listed).2)
    have below := FillCycles.weight_le_total rising member
    rw [own, FillCycles.total_zero, nothing, overloads_first] at below
    rw [overloads_first] at above
    rw [own, FillCycles.total_zero, nothing]
    omega
  have sum : ∑ handle, FillCycles.total overloads
      (depths 0 filling machine handle) = 1 := by
    rw [← one]
    apply Finset.sum_eq_single_of_mem 1 (Finset.mem_univ 1)
    intro handle _ other
    exact FillCycles.total_eq_zero rfl (others handle other)
  rw [sum] at events
  have greatest := peak fun handle depth listed =>
    Nat.lt_of_le_of_lt (bound handle depth listed) (by decide)
  refine ⟨machine, reached, UInt64.toNat_inj.mp events, ?_⟩
  apply UInt64.toNat_inj.mp
  apply Nat.le_antisymm
  · obtain ⟨handle, listed⟩ := greatest.1
    exact bound handle _ listed
  · exact greatest.2 ⟨1, member⟩

/-- A counter that has gone round. -/
theorem overloads_wrapped :
    ∃ machine, Reaches Unrestricted 0 (floods UInt64.size 1025) machine ∧
      machine.system.snapshot.queueOverloadEvents.toNat ≠
        ∑ handle, FillCycles.total overloads
          (depths 0 (floods UInt64.size 1025) machine handle) := by
  obtain ⟨machine, ran, _, many⟩ :=
    floods_total UInt64.size (show 1025 ≠ 0 by decide)
  refine ⟨machine, Transition.Execution.ofRunSteps ran fun _ _ _ => trivial, ?_⟩
  have counted := UInt64.toNat_lt_size
    machine.system.snapshot.queueOverloadEvents
  have all := le_sum (fun handle => FillCycles.total overloads
    (depths 0 (floods UInt64.size 1025) machine handle)) 1
  rw [overloads_first, Nat.mul_one] at many
  omega

end Machine

end Crynet
