import Crynet.Skynet.SkynetHandle
import Mathlib.Algebra.Order.Group.Nat
import Mathlib.Data.Nat.Bitwise

/-!
# The handle table finds what it holds

A service sits in the slot of its handle, and in no other.  A table that doubles
spreads its services over the new slots without a clash, because two handles
that differ in the old mask differ in the new one.  A service whose handle has
not been stored yet is in the slot of the handle it was given, and the table
must not double before the handle is stored.
-/

namespace Crynet.Skynet

namespace HandleStorage

variable {Context : Type}

private theorem hash_pow {bits : Nat} (small : bits ≤ 24) (handle : UInt32) :
    hash (2 ^ bits) handle = handle.toNat % 2 ^ bits := by
  have power : 2 ^ bits ≤ 2 ^ 24 := Nat.pow_le_pow_right (by decide) small
  rw [hash, UInt32.toNat_and, UInt32.toNat_ofNat_of_lt' (by
    rw [UInt32.size]
    omega)]
  exact Nat.and_two_pow_sub_one_eq_mod _ bits

private theorem hash_eq (storage : HandleStorage Context) (handle : UInt32) :
    hash storage.slotSize handle = handle.toNat % storage.slotSize := by
  obtain ⟨bits, small, size⟩ := storage.slotPower
  rw [size, hash_pow small]

private theorem slotSize_pos (storage : HandleStorage Context) :
    0 < storage.slotSize := by
  obtain ⟨bits, _, size⟩ := storage.slotPower
  rw [size]
  exact Nat.two_pow_pos bits

private theorem hash_lt (storage : HandleStorage Context) (handle : UInt32) :
    hash storage.slotSize handle < storage.slotSize := by
  rw [hash_eq]
  exact Nat.mod_lt _ storage.slotSize_pos

/-- The harbor of a handle does not change its slot. -/
theorem hash_or_harbor (storage : HandleStorage Context) (handle : UInt32) :
    hash storage.slotSize (handle ||| storage.harbor) =
      hash storage.slotSize handle := by
  obtain ⟨bits, small, size⟩ := storage.slotPower
  have low : storage.harbor.toNat % 2 ^ bits = 0 := by
    have divides : 2 ^ bits ∣ 2 ^ 24 := Nat.pow_dvd_pow 2 small
    rw [← Nat.mod_mod_of_dvd _ divides, storage.harborHigh, Nat.zero_mod]
  rw [size, hash_pow small, hash_pow small, UInt32.toNat_or, Nat.or_mod_two_pow,
    low, Nat.or_zero]

/-- The slot of a handle in the old table, from its slot in the doubled one. -/
theorem hash_of_doubled (storage : HandleStorage Context)
    (small : storage.slotSize < 2 ^ 24) (handle : UInt32) :
    hash (storage.slotSize * 2) handle % storage.slotSize =
      hash storage.slotSize handle := by
  obtain ⟨bits, _, size⟩ := storage.slotPower
  have fewer : bits + 1 ≤ 24 := by
    by_contra large
    have power : 2 ^ 24 ≤ 2 ^ bits :=
      Nat.pow_le_pow_right (by decide) (by omega)
    omega
  rw [hash_eq, size, ← Nat.pow_succ, hash_pow fewer, Nat.pow_succ,
    Nat.mod_mul_right_mod]

/-- Some slot holds the service. -/
def Registered (storage : HandleStorage Context) (context : Context) : Prop :=
  ∃ index, storage.slot index = some context

/-- Every service is in one slot, which is that of its handle once that is
stored. -/
structure Placed (handleOf : Context → Except Fault UInt32)
    (storage : HandleStorage Context) : Prop where
  inside : ∀ index context, storage.slot index = some context →
    index < storage.slotSize
  single : ∀ first second context, storage.slot first = some context →
    storage.slot second = some context → first = second
  reads : ∀ index context, storage.slot index = some context →
    ∃ handle, handleOf context = .ok handle ∧
      (handle ≠ 0 → hash storage.slotSize handle = index)

/-- No service is between its registration and the store of its handle. -/
def Stored (handleOf : Context → Except Fault UInt32)
    (storage : HandleStorage Context) : Prop :=
  ∀ index context, storage.slot index = some context →
    handleOf context ≠ .ok 0

variable {handleOf : Context → Except Fault UInt32}
variable {storage : HandleStorage Context}

private theorem Placed.slot_of_handle (placed : Placed handleOf storage)
    {context : Context} {handle : UInt32}
    (registered : storage.Registered context)
    (read : handleOf context = .ok handle) (nonzero : handle ≠ 0) :
    storage.slot (hash storage.slotSize handle) = some context := by
  obtain ⟨index, found⟩ := registered
  obtain ⟨stored, storedRead, seat⟩ := placed.reads index context found
  rw [read] at storedRead
  obtain rfl := Except.ok.inj storedRead
  rw [seat nonzero]
  exact found

private theorem Placed.seat_of_stored (placed : Placed handleOf storage)
    (stored : Stored handleOf storage) {index : Nat} {context : Context}
    {handle : UInt32} (occupied : storage.slot index = some context)
    (read : handleOf context = .ok handle) :
    hash storage.slotSize handle = index := by
  obtain ⟨again, againRead, seat⟩ := placed.reads index context occupied
  rw [read] at againRead
  obtain rfl := Except.ok.inj againRead
  refine seat ?_
  intro zero
  rw [zero] at read
  exact stored index context occupied read

/-- The table holds the services of the first slots of the old one, each in
the slot of its handle. -/
def Copied (handleOf : Context → Except Fault UInt32)
    (storage : HandleStorage Context) (count : Nat)
    (newSlot : Nat → Option Context) : Prop :=
  ∀ index context, newSlot index = some context ↔
    ∃ old < count, storage.slot old = some context ∧
      ∃ handle, handleOf context = .ok handle ∧
        hash (storage.slotSize * 2) handle = index

section Copying

variable {count : Nat} {newSlot : Nat → Option Context}

private theorem Copied.skip (holds : Copied handleOf storage count newSlot)
    (found : storage.slot count = none) :
    Copied handleOf storage (count + 1) newSlot := by
  intro index context
  rw [holds]
  constructor
  · rintro ⟨old, before, rest⟩
    exact ⟨old, by omega, rest⟩
  · rintro ⟨old, before, occupied, rest⟩
    have different : old ≠ count := by
      intro same
      rw [same, found] at occupied
      simp at occupied
    exact ⟨old, by omega, occupied, rest⟩

/-- A service of the new table was in the slot that its new one folds to. -/
theorem Copied.folds (holds : Copied handleOf storage count newSlot)
    (placed : Placed handleOf storage) (stored : Stored handleOf storage)
    (small : storage.slotSize < 2 ^ 24) {index : Nat} {context : Context}
    (occupied : newSlot index = some context) :
    index % storage.slotSize < count ∧
      storage.slot (index % storage.slotSize) = some context := by
  obtain ⟨old, before, found, handle, read, seat⟩ :=
    (holds _ _).mp occupied
  have folded : index % storage.slotSize = old := by
    rw [← seat, hash_of_doubled storage small]
    exact placed.seat_of_stored stored found read
  rw [folded]
  exact ⟨before, found⟩

/-- No two services of the old table fall into one slot of the new one. -/
theorem Copied.vacant (holds : Copied handleOf storage count newSlot)
    (placed : Placed handleOf storage) (stored : Stored handleOf storage)
    (small : storage.slotSize < 2 ^ 24) {newcomer : Context}
    (found : storage.slot count = some newcomer) {handle : UInt32}
    (read : handleOf newcomer = .ok handle) :
    newSlot (hash (storage.slotSize * 2) handle) = none := by
  cases clash : newSlot (hash (storage.slotSize * 2) handle) with
  | none => rfl
  | some other =>
      obtain ⟨before, _⟩ := holds.folds placed stored small clash
      rw [hash_of_doubled storage small,
        placed.seat_of_stored stored found read] at before
      omega

private theorem Copied.extend (holds : Copied handleOf storage count newSlot)
    {newcomer : Context} (found : storage.slot count = some newcomer)
    {handle : UInt32} (read : handleOf newcomer = .ok handle)
    (vacant : newSlot (hash (storage.slotSize * 2) handle) = none) :
    Copied handleOf storage (count + 1)
      (Function.update newSlot (hash (storage.slotSize * 2) handle)
        (some newcomer)) := by
  intro index context
  constructor
  · intro occupied
    by_cases same : index = hash (storage.slotSize * 2) handle
    · rw [same, Function.update_self] at occupied
      obtain rfl := Option.some.inj occupied
      exact ⟨count, by omega, found, handle, read, same.symm⟩
    · rw [Function.update_of_ne same] at occupied
      obtain ⟨old, before, rest⟩ := (holds _ _).mp occupied
      exact ⟨old, by omega, rest⟩
  · rintro ⟨old, before, occupied, otherHandle, otherRead, same⟩
    rcases Nat.lt_or_eq_of_le (Nat.le_of_lt_succ before) with earlier | last
    · have kept := (holds index context).mpr
        ⟨old, earlier, occupied, otherHandle, otherRead, same⟩
      have different : index ≠ hash (storage.slotSize * 2) handle := by
        intro clash
        rw [clash, vacant] at kept
        simp at kept
      rw [Function.update_of_ne different]
      exact kept
    · rw [last, found] at occupied
      obtain rfl := Option.some.inj occupied
      rw [read] at otherRead
      obtain rfl := Except.ok.inj otherRead
      rw [← same, Function.update_self]

/-- The copy of the first slots holds their services, each in the slot of its
handle. -/
theorem rehash_spec (placed : Placed handleOf storage)
    (stored : Stored handleOf storage) (small : storage.slotSize < 2 ^ 24)
    (count : Nat) :
    ∃ newSlot, rehash handleOf (storage.slotSize * 2) storage.slot count =
        .ok newSlot ∧ Copied handleOf storage count newSlot := by
  induction count with
  | zero =>
      refine ⟨fun _ => none, rfl, ?_⟩
      intro index context
      simp
  | succ count induction =>
      obtain ⟨newSlot, copied, holds⟩ := induction
      cases found : storage.slot count with
      | none =>
          refine ⟨newSlot, ?_, holds.skip found⟩
          simp only [rehash, copied, found]
          rfl
      | some newcomer =>
          obtain ⟨handle, read, _⟩ := placed.reads count newcomer found
          have vacant := holds.vacant placed stored small found read
          refine ⟨_, ?_, holds.extend found read vacant⟩
          simp only [rehash, copied, found, read]
          exact if_neg (by simp [vacant])

variable {grown : HandleStorage Context}

private theorem Copied.placed
    (holds : Copied handleOf storage count grown.slot)
    (size : grown.slotSize = storage.slotSize * 2) :
    Placed handleOf grown := by
  constructor
  · intro index context occupied
    obtain ⟨old, _, _, handle, _, seat⟩ := (holds _ _).mp occupied
    rw [← seat, ← size]
    exact hash_lt grown handle
  · intro first second context firstIn secondIn
    obtain ⟨_, _, _, handle, read, seat⟩ := (holds _ _).mp firstIn
    obtain ⟨_, _, _, again, againRead, againSeat⟩ := (holds _ _).mp secondIn
    rw [read] at againRead
    obtain rfl := Except.ok.inj againRead
    rw [← seat, ← againSeat]
  · intro index context occupied
    obtain ⟨_, _, _, handle, read, seat⟩ := (holds _ _).mp occupied
    exact ⟨handle, read, fun _ => by rw [size]; exact seat⟩

private theorem Copied.registered
    (holds : Copied handleOf storage storage.slotSize grown.slot)
    (placed : Placed handleOf storage) (context : Context) :
    grown.Registered context ↔ storage.Registered context := by
  constructor
  · rintro ⟨index, occupied⟩
    obtain ⟨old, _, found, _⟩ := (holds _ _).mp occupied
    exact ⟨old, found⟩
  · rintro ⟨index, found⟩
    obtain ⟨handle, read, _⟩ := placed.reads index context found
    exact ⟨hash (storage.slotSize * 2) handle, (holds _ _).mpr
      ⟨index, placed.inside _ _ found, found, handle, read, rfl⟩⟩

/-- Slot 1 and the slot one table further fold to the same one, so that one of
them stays free. -/
theorem Copied.free (holds : Copied handleOf storage count newSlot)
    (placed : Placed handleOf storage) (stored : Stored handleOf storage)
    (small : storage.slotSize < 2 ^ 24) (several : 2 ≤ storage.slotSize) :
    ∃ index, 0 < index ∧ index < storage.slotSize * 2 ∧
      newSlot index = none := by
  cases lower : newSlot 1 with
  | none => exact ⟨1, by omega, by omega, lower⟩
  | some first =>
      refine ⟨storage.slotSize + 1, by omega, by omega, ?_⟩
      cases upper : newSlot (storage.slotSize + 1) with
      | none => rfl
      | some second =>
          obtain ⟨_, one⟩ := holds.folds placed stored small lower
          obtain ⟨_, other⟩ := holds.folds placed stored small upper
          rw [Nat.add_mod_left, one] at other
          obtain rfl := Option.some.inj other
          obtain ⟨_, _, _, handle, read, seat⟩ := (holds _ _).mp lower
          obtain ⟨_, _, _, again, againRead, againSeat⟩ :=
            (holds _ _).mp upper
          rw [read] at againRead
          obtain rfl := Except.ok.inj againRead
          omega

end Copying

private theorem doubled_fits (small : storage.slotSize < 2 ^ 24) :
    storage.slotSize * 2 - 1 ≤ handleMask.toNat := by
  obtain ⟨bits, _, size⟩ := storage.slotPower
  have fewer : bits + 1 ≤ 24 := by
    by_contra large
    have power : 2 ^ 24 ≤ 2 ^ bits :=
      Nat.pow_le_pow_right (by decide) (by omega)
    omega
  have power : 2 ^ (bits + 1) ≤ 2 ^ 24 :=
    Nat.pow_le_pow_right (by decide) fewer
  rw [Nat.pow_succ, ← size] at power
  have mask : handleMask.toNat = 16777215 := by decide
  omega

/-- Doubling keeps every service, and leaves a slot other than 0 free. -/
theorem grow_spec (placed : Placed handleOf storage)
    (stored : Stored handleOf storage) (small : storage.slotSize < 2 ^ 24)
    (several : 2 ≤ storage.slotSize) :
    ∃ grown, grow handleOf storage = .ok grown ∧
      grown.slotSize = storage.slotSize * 2 ∧
      grown.handleIndex = storage.handleIndex ∧
      grown.harbor = storage.harbor ∧ grown.name = storage.name ∧
      Placed handleOf grown ∧
      (∀ context, grown.Registered context ↔ storage.Registered context) ∧
      ∃ index, 0 < index ∧ index < grown.slotSize ∧
        grown.slot index = none := by
  obtain ⟨newSlot, copied, holds⟩ :=
    rehash_spec placed stored small storage.slotSize
  have grown : ∃ grown, grow handleOf storage = .ok grown ∧
      grown.slotSize = storage.slotSize * 2 ∧
      grown.handleIndex = storage.handleIndex ∧
      grown.harbor = storage.harbor ∧ grown.name = storage.name ∧
      grown.slot = newSlot := by
    unfold grow
    rw [dif_pos (doubled_fits small), copied]
    exact ⟨_, rfl, rfl, rfl, rfl, rfl, rfl⟩
  obtain ⟨grown, done, size, index, harbor, name, slots⟩ := grown
  rw [← slots] at holds
  refine ⟨grown, done, size, index, harbor, name, holds.placed size,
    holds.registered placed, ?_⟩
  rw [size]
  exact holds.free placed stored small several

/-- The handle the scan looks at after some rounds. -/
def scanned (next : UInt32) (rounds : Nat) : Nat :=
  if next.toNat + rounds < 2 ^ 24 then next.toNat + rounds
  else next.toNat + rounds - (2 ^ 24 - 1)

/-- A scan that finds nothing has seen an occupied slot in every round. -/
theorem freeHandle_none {slotSize : Nat} {slot : Nat → Option Context}
    {rounds : Nat} {next : UInt32} (positive : 0 < next.toNat)
    (within : next.toNat ≤ 2 ^ 24) (short : rounds ≤ 2 ^ 24 - 1)
    (missed : freeHandle slotSize slot rounds next = none) :
    ∀ round < rounds, ∃ handle : UInt32,
      handle.toNat = scanned next round ∧
        slot (hash slotSize handle) ≠ none := by
  induction rounds generalizing next with
  | zero =>
      intro round before
      omega
  | succ rounds induction =>
      have bounds := wrapHandle_bounds positive
      have mask : handleMask.toNat = 16777215 := by decide
      have wrapped : (wrapHandle next).toNat =
          if next.toNat < 2 ^ 24 then next.toNat else 1 := by
        unfold wrapHandle
        by_cases past : next > handleMask
        · have above := UInt32.lt_iff_toNat_lt.mp past
          rw [if_pos past, if_neg (by omega)]
          decide
        · have below := UInt32.le_iff_toNat_le.mp (UInt32.not_lt.mp past)
          rw [if_neg past, if_pos (by omega)]
      simp only [freeHandle] at missed
      split at missed
      · simp at missed
      · rename_i occupied
        intro round before
        cases round with
        | zero =>
            refine ⟨wrapHandle next, ?_, by simpa using occupied⟩
            rw [wrapped, scanned]
            split_ifs <;> omega
        | succ round =>
            have one : (1 : UInt32).toNat = 1 := by decide
            have onward : (wrapHandle next + 1).toNat =
                (wrapHandle next).toNat + 1 := by
              rw [UInt32.toNat_add, one]
              omega
            obtain ⟨handle, position, full⟩ := @induction
              (wrapHandle next + 1) (by omega) (by omega) (by omega)
              missed round (by omega)
            refine ⟨handle, ?_, full⟩
            rw [position, scanned, scanned, onward, wrapped]
            split_ifs <;> omega

/-- A whole scan passes every slot but 0, so it finds one that is free. -/
theorem freeHandle_of_free (storage : HandleStorage Context)
    (small : storage.slotSize < 2 ^ 24) {index : Nat} (positive : 0 < index)
    (inside : index < storage.slotSize) (free : storage.slot index = none) :
    freeHandle storage.slotSize storage.slot storage.slotSize
      storage.handleIndex ≠ none := by
  intro missed
  have seen := freeHandle_none storage.indexWithin.1 storage.indexWithin.2
    (by omega) missed
  have divides : storage.slotSize ∣ 2 ^ 24 := by
    obtain ⟨bits, fewer, size⟩ := storage.slotPower
    rw [size]
    exact Nat.pow_dvd_pow 2 fewer
  have occupied : ∀ round < storage.slotSize,
      scanned storage.handleIndex round % storage.slotSize ≠ index := by
    intro round before reached
    obtain ⟨handle, position, full⟩ := seen round before
    rw [hash_eq, position, reached] at full
    exact full free
  have start := storage.handleIndex.toNat
  have split := Nat.div_add_mod storage.handleIndex.toNat storage.slotSize
  have remainder := Nat.mod_lt storage.handleIndex.toNat storage.slotSize_pos
  have reach : ∀ total, total = index +
        storage.slotSize * (storage.handleIndex.toNat / storage.slotSize + 1) ∨
      total = index + storage.slotSize *
        (storage.handleIndex.toNat / storage.slotSize) →
      total % storage.slotSize = index := by
    rintro total (here | here)
    · rw [here, Nat.add_mul_mod_self_left, Nat.mod_eq_of_lt inside]
    · rw [here, Nat.add_mul_mod_self_left, Nat.mod_eq_of_lt inside]
  obtain ⟨round, before, arrives⟩ : ∃ round < storage.slotSize,
      (storage.handleIndex.toNat + round) % storage.slotSize = index := by
    by_cases ahead : storage.handleIndex.toNat % storage.slotSize ≤ index
    · refine ⟨index - storage.handleIndex.toNat % storage.slotSize, by omega,
        reach _ (Or.inr ?_)⟩
      omega
    · refine ⟨index + storage.slotSize -
        storage.handleIndex.toNat % storage.slotSize, by omega,
        reach _ (Or.inl ?_)⟩
      rw [Nat.mul_add, Nat.mul_one]
      omega
  have bound := storage.indexWithin.2
  by_cases wraps : storage.handleIndex.toNat + round < 2 ^ 24
  · apply occupied round before
    rw [scanned, if_pos wraps]
    exact arrives
  · obtain ⟨turns, whole⟩ := divides
    have past : storage.handleIndex.toNat + round ≠ 2 ^ 24 := by
      intro exactly
      rw [exactly, whole, Nat.mul_mod_right] at arrives
      omega
    apply occupied (round - 1) (by omega)
    rw [scanned, if_neg (by omega)]
    have shifted : storage.handleIndex.toNat + round =
        storage.handleIndex.toNat + (round - 1) - (2 ^ 24 - 1) +
          storage.slotSize * turns := by
      omega
    rw [shifted, Nat.add_mul_mod_self_left] at arrives
    exact arrives

/-- What a registration without growth does. -/
theorem registerLoop_found (context : Context) (rounds : Nat)
    {handle : UInt32}
    (found : freeHandle storage.slotSize storage.slot storage.slotSize
      storage.handleIndex = some handle) :
    ∃ next, registerLoop handleOf context (rounds + 1) storage =
        .ok (handle ||| storage.harbor, next) ∧
      next.slot = Function.update storage.slot
        (hash storage.slotSize handle) (some context) ∧
      next.slotSize = storage.slotSize ∧ next.harbor = storage.harbor ∧
      next.handleIndex = handle + 1 ∧ next.name = storage.name := by
  unfold registerLoop
  split
  · rename_i given scan
    rw [found] at scan
    obtain rfl := Option.some.inj scan
    exact ⟨_, rfl, rfl, rfl, rfl, rfl, rfl⟩
  · rename_i scan
    rw [found] at scan
    simp at scan

/-- A registration that finds no handle doubles the table first. -/
theorem registerLoop_grows (context : Context) (rounds : Nat)
    {grown : HandleStorage Context}
    (missed : freeHandle storage.slotSize storage.slot storage.slotSize
      storage.handleIndex = none)
    (doubled : grow handleOf storage = .ok grown) :
    registerLoop handleOf context (rounds + 1) storage =
      registerLoop handleOf context rounds grown := by
  rw [registerLoop]
  split
  · rename_i given scan
    rw [missed] at scan
    simp at scan
  · rw [doubled]
    rfl

/-- What a registration did to the table. -/
structure Enters (handleOf : Context → Except Fault UInt32)
    (storage : HandleStorage Context) (context : Context) (handle : UInt32)
    (next : HandleStorage Context) : Prop where
  nonzero : handle ≠ 0
  seated : next.slot (hash next.slotSize handle) = some context
  others : ∀ other, next.Registered other ↔
    other = context ∨ storage.Registered other
  placed : Placed handleOf next
  waiting : ∀ other given, handleOf other = .ok 0 →
    storage.slot (hash storage.slotSize given) = some other →
    next.slot (hash next.slotSize given) = some other
  name : next.name = storage.name

section Entering

variable {context : Context} {seat : Nat} {next : HandleStorage Context}

private theorem registered_of_update (free : storage.slot seat = none)
    (slots : next.slot = Function.update storage.slot seat (some context))
    (other : Context) :
    next.Registered other ↔ other = context ∨ storage.Registered other := by
  constructor
  · rintro ⟨index, occupied⟩
    rw [slots] at occupied
    by_cases here : index = seat
    · rw [here, Function.update_self] at occupied
      exact Or.inl (Option.some.inj occupied).symm
    · rw [Function.update_of_ne here] at occupied
      exact Or.inr ⟨index, occupied⟩
  · rintro (rfl | ⟨index, occupied⟩)
    · exact ⟨seat, by rw [slots, Function.update_self]⟩
    · have elsewhere : index ≠ seat := by
        intro here
        rw [here, free] at occupied
        simp at occupied
      exact ⟨index, by
        rw [slots, Function.update_of_ne elsewhere]
        exact occupied⟩

private theorem Placed.of_update (placed : Placed handleOf storage)
    (fresh : ¬storage.Registered context) (unset : handleOf context = .ok 0)
    (inside : seat < storage.slotSize)
    (slots : next.slot = Function.update storage.slot seat (some context))
    (size : next.slotSize = storage.slotSize) : Placed handleOf next := by
  constructor
  · intro index other occupied
    rw [slots] at occupied
    rw [size]
    by_cases here : index = seat
    · rw [here]
      exact inside
    · rw [Function.update_of_ne here] at occupied
      exact placed.inside index other occupied
  · intro first second other firstIn secondIn
    rw [slots] at firstIn secondIn
    by_cases firstHere : first = seat
    · by_cases secondHere : second = seat
      · rw [firstHere, secondHere]
      · rw [firstHere, Function.update_self] at firstIn
        rw [Function.update_of_ne secondHere] at secondIn
        obtain rfl := Option.some.inj firstIn
        exact absurd ⟨second, secondIn⟩ fresh
    · rw [Function.update_of_ne firstHere] at firstIn
      by_cases secondHere : second = seat
      · rw [secondHere, Function.update_self] at secondIn
        obtain rfl := Option.some.inj secondIn
        exact absurd ⟨first, firstIn⟩ fresh
      · rw [Function.update_of_ne secondHere] at secondIn
        exact placed.single first second other firstIn secondIn
  · intro index other occupied
    rw [slots] at occupied
    rw [size]
    by_cases here : index = seat
    · rw [here, Function.update_self] at occupied
      obtain rfl := Option.some.inj occupied
      exact ⟨0, unset, fun nonzero => absurd rfl nonzero⟩
    · rw [Function.update_of_ne here] at occupied
      exact placed.reads index other occupied

end Entering

private theorem or_harbor_ne_zero {handle : UInt32}
    (positive : 0 < handle.toNat) (harbor : UInt32) :
    handle ||| harbor ≠ 0 := by
  intro zero
  have value := congrArg UInt32.toNat zero
  have left : handle.toNat ≤ handle.toNat ||| harbor.toNat :=
    Nat.left_le_or
  rw [UInt32.toNat_or] at value
  have none : (0 : UInt32).toNat = 0 := by decide
  omega

private theorem enters_of_found (placed : Placed handleOf storage)
    {context : Context} (fresh : ¬storage.Registered context)
    (unset : handleOf context = .ok 0) (rounds : Nat) {handle : UInt32}
    (found : freeHandle storage.slotSize storage.slot storage.slotSize
      storage.handleIndex = some handle) :
    ∃ given next, registerLoop handleOf context (rounds + 1) storage =
        .ok (given, next) ∧ next.slotSize = storage.slotSize ∧
      Enters handleOf storage context given next := by
  obtain ⟨next, done, slots, size, _, _, name⟩ :=
    @registerLoop_found _ handleOf storage context rounds handle found
  obtain ⟨positive, small, free⟩ :=
    freeHandle_some storage.indexWithin.1 found
  refine ⟨_, next, done, size, or_harbor_ne_zero positive _, ?_,
    registered_of_update free slots,
    placed.of_update fresh unset (hash_lt storage handle) slots size, ?_, name⟩
  · rw [size, hash_or_harbor, slots, Function.update_self]
  · intro other given _ occupied
    have elsewhere : hash storage.slotSize given ≠
        hash storage.slotSize handle := by
      intro here
      rw [here, free] at occupied
      simp at occupied
    rw [size, slots, Function.update_of_ne elsewhere]
    exact occupied

/-- Registering a service whose handle is not stored yet.  If the table has to
double, it must be small enough and every other service must have its handle
stored. -/
theorem register_enters (placed : Placed handleOf storage)
    {context : Context} (fresh : ¬storage.Registered context)
    (unset : handleOf context = .ok 0) (several : 2 ≤ storage.slotSize)
    (full : freeHandle storage.slotSize storage.slot storage.slotSize
      storage.handleIndex = none →
        storage.slotSize < 2 ^ 23 ∧ Stored handleOf storage) :
    ∃ handle next, register handleOf context storage = .ok (handle, next) ∧
      storage.slotSize ≤ next.slotSize ∧
      Enters handleOf storage context handle next := by
  cases found : freeHandle storage.slotSize storage.slot storage.slotSize
      storage.handleIndex with
  | some handle =>
      obtain ⟨given, next, done, size, enters⟩ :=
        enters_of_found placed fresh unset 24 found
      exact ⟨given, next, done, by omega, enters⟩
  | none =>
      obtain ⟨small, stored⟩ := full found
      obtain ⟨grown, doubled, size, _, _, name, grownPlaced, kept, index,
        positive, inside, free⟩ :=
        grow_spec placed stored (by omega) several
      have finds := freeHandle_of_free grown (by omega) positive inside free
      obtain ⟨handle, again⟩ := Option.ne_none_iff_exists'.mp finds
      have grownFresh : ¬grown.Registered context :=
        fun registered => fresh ((kept context).mp registered)
      obtain ⟨given, next, done, nextSize, enters⟩ :=
        enters_of_found grownPlaced grownFresh unset 23 again
      refine ⟨given, next, ?_, by omega, ?_⟩
      · rw [register, registerLoop_grows context 24 found doubled]
        exact done
      · refine ⟨enters.nonzero, enters.seated, ?_, enters.placed, ?_,
          enters.name.trans name⟩
        · intro other
          rw [enters.others, kept]
        · intro other earlier zero occupied
          exact absurd zero (stored _ other occupied)

section Leaving

variable {handle : UInt32}

@[simp] theorem clear_slot (storage : HandleStorage Context) (handle : UInt32)
    (index : Nat) :
    (storage.clear handle).slot index =
      if index = hash storage.slotSize handle then none
      else storage.slot index :=
  Function.update_apply _ _ _ _

/-- What a retirement did to the table. -/
structure Leaves (storage : HandleStorage Context) (context : Context)
    (handle : UInt32) (next : HandleStorage Context) : Prop where
  size : next.slotSize = storage.slotSize
  gone : ∀ index, next.slot index ≠ some context
  stays : ∀ index other, other ≠ context →
    (next.slot index = some other ↔ storage.slot index = some other)
  name : next.name = storage.name.filter (fun entry => entry.handle ≠ handle)

theorem Leaves.registered {context other : Context}
    {next : HandleStorage Context} (leaves : Leaves storage context handle next) :
    next.Registered other ↔ storage.Registered other ∧ other ≠ context := by
  constructor
  · rintro ⟨index, occupied⟩
    have different : other ≠ context := by
      rintro rfl
      exact leaves.gone index occupied
    exact ⟨⟨index, (leaves.stays index other different).mp occupied⟩, different⟩
  · rintro ⟨⟨index, occupied⟩, different⟩
    exact ⟨index, (leaves.stays index other different).mpr occupied⟩

theorem Leaves.placed {context : Context} {next : HandleStorage Context}
    (leaves : Leaves storage context handle next)
    (placed : Placed handleOf storage) : Placed handleOf next := by
  have older : ∀ index other, next.slot index = some other →
      storage.slot index = some other := by
    intro index other occupied
    have different : other ≠ context := by
      rintro rfl
      exact leaves.gone index occupied
    exact (leaves.stays index other different).mp occupied
  constructor
  · intro index other occupied
    rw [leaves.size]
    exact placed.inside index other (older index other occupied)
  · intro first second other firstIn secondIn
    exact placed.single first second other (older _ _ firstIn)
      (older _ _ secondIn)
  · intro index other occupied
    rw [leaves.size]
    exact placed.reads index other (older index other occupied)

private theorem clear_leaves (placed : Placed handleOf storage) {context : Context}
    (found : storage.slot (hash storage.slotSize handle) = some context) :
    Leaves storage context handle (storage.clear handle) := by
  constructor
  · rfl
  · intro index occupied
    rw [clear_slot] at occupied
    split at occupied
    · simp at occupied
    · rename_i elsewhere
      exact elsewhere (placed.single _ _ _ occupied found)
  · intro index other different
    rw [clear_slot]
    split
    · rename_i here
      rw [here, found, Option.some.injEq]
      constructor
      · intro impossible
        simp at impossible
      · intro same
        exact absurd same.symm different
    · rfl
  · rfl

/-- The two ways `skynet_handle_retire` can go. -/
theorem retire_cases (placed : Placed handleOf storage) (nonzero : handle ≠ 0) :
    (∃ context next, retire handleOf handle storage = .ok (some context, next) ∧
      handleOf context = .ok handle ∧ storage.Registered context ∧
      Leaves storage context handle next) ∨
    (retire handleOf handle storage = .ok (none, storage) ∧
      ∀ context, storage.Registered context →
        handleOf context ≠ .ok handle) := by
  cases found : storage.slot (hash storage.slotSize handle) with
  | none =>
      right
      refine ⟨by simp only [retire, found], ?_⟩
      intro context registered read
      rw [placed.slot_of_handle registered read nonzero] at found
      simp at found
  | some context =>
      obtain ⟨stored, read, _⟩ := placed.reads _ _ found
      by_cases same : stored = handle
      · left
        rw [same] at read
        refine ⟨context, storage.clear handle, ?_, read, ⟨_, found⟩,
          clear_leaves placed found⟩
        simp only [retire, found, read]
        exact if_pos rfl
      · right
        refine ⟨?_, ?_⟩
        · simp only [retire, found, read]
          exact if_neg same
        · intro other registered otherRead
          have here := placed.slot_of_handle registered otherRead nonzero
          rw [found] at here
          obtain rfl := Option.some.inj here
          rw [read] at otherRead
          exact same (Except.ok.inj otherRead)

/-- A lookup finds the registered service with the handle, if there is one. -/
theorem lookup_spec (placed : Placed handleOf storage) (nonzero : handle ≠ 0) :
    ∃ found, lookup handleOf handle storage = .ok found ∧
      ∀ context, found = some context ↔
        storage.Registered context ∧ handleOf context = .ok handle := by
  cases seated : storage.slot (hash storage.slotSize handle) with
  | none =>
      refine ⟨none, by simp only [lookup, seated], ?_⟩
      intro context
      simp only [reduceCtorEq, false_iff, not_and]
      intro registered read
      rw [placed.slot_of_handle registered read nonzero] at seated
      simp at seated
  | some seat =>
      obtain ⟨stored, read, _⟩ := placed.reads _ _ seated
      refine ⟨if stored = handle then some seat else none, ?_, ?_⟩
      · simp only [lookup, seated, read]
        rfl
      · intro context
        constructor
        · intro found
          split at found
          · rename_i same
            obtain rfl := Option.some.inj found
            exact ⟨⟨_, seated⟩, by rw [read, same]⟩
          · simp at found
        · rintro ⟨registered, contextRead⟩
          have here := placed.slot_of_handle registered contextRead nonzero
          rw [seated] at here
          obtain rfl := Option.some.inj here
          rw [read] at contextRead
          exact if_pos (Except.ok.inj contextRead)

end Leaving

end HandleStorage

end Crynet.Skynet
