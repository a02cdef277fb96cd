import Crynet.Foundation.BinarySearch
import Mathlib.Algebra.BigOperators.Group.List.Basic
import Mathlib.Logic.Function.Basic

/-!
# The handle storage of skynet

The table that maps handles to services and the sorted table of their names.
Every function below holds the lock of the storage, so each is one step of the
thread that calls it.  The handle of a service is read from the service, so the
functions are told how to read it.
-/

namespace Crynet.Skynet

/-- Why a step cannot be taken: it is not the turn of the thread, it reads
memory that is not there, it breaks an assertion, or it computes a number that
is not an `int`. -/
inductive Fault where
  | disabled
  | dangling
  | assertion
  | overflow
  deriving DecidableEq, Repr

abbrev handleMask : UInt32 := 0xffffff
abbrev handleRemoteShift : UInt32 := 24
abbrev defaultSlotSize : Nat := 4
abbrev maxSlotSize : Nat := 0x40000000

structure HandleName where
  name : List UInt8
  handle : UInt32
  deriving DecidableEq, Repr

structure HandleStorage (Context : Type) where
  harbor : UInt32
  handleIndex : UInt32
  slotSize : Nat
  slot : Nat → Option Context
  nameCap : Nat
  name : List HandleName
  harborHigh : harbor.toNat % 2 ^ 24 = 0
  indexWithin : 0 < handleIndex.toNat ∧ handleIndex.toNat ≤ 2 ^ 24
  slotPower : ∃ bits ≤ 24, slotSize = 2 ^ bits

namespace HandleStorage

variable {Context : Type}

/-- `skynet_handle_init`. -/
def init (harbor : UInt32) : HandleStorage Context :=
  { harbor := (harbor &&& 0xff) <<< handleRemoteShift
    handleIndex := 1
    slotSize := defaultSlotSize
    slot := fun _ => none
    nameCap := 2
    name := []
    harborHigh := by
      rw [UInt32.toNat_shiftLeft, Nat.shiftLeft_eq]
      have shift : handleRemoteShift.toNat % 32 = 24 := by decide
      rw [shift]
      omega
    indexWithin := by decide
    slotPower := ⟨2, by decide, by decide⟩ }

/-- The slot of a handle: `handle & (slot_size - 1)`. -/
def hash (slotSize : Nat) (handle : UInt32) : Nat :=
  (handle &&& UInt32.ofNat (slotSize - 1)).toNat

/-- A handle past the mask starts again at 1, as 0 is reserved. -/
def wrapHandle (handle : UInt32) : UInt32 :=
  if handle > handleMask then 1 else handle

theorem wrapHandle_bounds {handle : UInt32} (positive : 0 < handle.toNat) :
    0 < (wrapHandle handle).toNat ∧ (wrapHandle handle).toNat < 2 ^ 24 := by
  unfold wrapHandle
  split
  · exact ⟨by decide, by decide⟩
  · rename_i small
    have mask : handleMask.toNat = 16777215 := by decide
    have below := UInt32.le_iff_toNat_le.mp (UInt32.not_lt.mp small)
    omega

/-- The scan of `skynet_handle_register` for a handle whose slot is free. -/
def freeHandle (slotSize : Nat) (slot : Nat → Option Context) :
    Nat → UInt32 → Option UInt32
  | 0, _ => none
  | rounds + 1, next =>
      let handle := wrapHandle next
      if (slot (hash slotSize handle)).isNone then some handle
      else freeHandle slotSize slot rounds (handle + 1)

theorem freeHandle_some {slotSize : Nat} {slot : Nat → Option Context}
    {rounds : Nat} {next handle : UInt32} (positive : 0 < next.toNat)
    (found : freeHandle slotSize slot rounds next = some handle) :
    0 < handle.toNat ∧ handle.toNat < 2 ^ 24 ∧
      slot (hash slotSize handle) = none := by
  induction rounds generalizing next with
  | zero => simp [freeHandle] at found
  | succ rounds induction =>
      have bounds := wrapHandle_bounds positive
      simp only [freeHandle] at found
      split at found
      · rename_i free
        obtain rfl := Option.some.inj found
        exact ⟨bounds.1, bounds.2, Option.isNone_iff_eq_none.mp free⟩
      · refine induction ?_ found
        rw [UInt32.toNat_add]
        have one : (1 : UInt32).toNat = 1 := by decide
        omega

/-- The copy of the first slots into a table of another size. -/
def rehash (handleOf : Context → Except Fault UInt32) (newSize : Nat)
    (slot : Nat → Option Context) : Nat → Except Fault (Nat → Option Context)
  | 0 => .ok (fun _ => none)
  | index + 1 => do
      let newSlot ← rehash handleOf newSize slot index
      match slot index with
      | none => .ok newSlot
      | some context => do
          let handle ← handleOf context
          if (newSlot (hash newSize handle)).isSome then
            .error .assertion
          else
            .ok (Function.update newSlot (hash newSize handle) (some context))

/-- Double the slots. -/
def grow (handleOf : Context → Except Fault UInt32)
    (storage : HandleStorage Context) :
    Except Fault (HandleStorage Context) :=
  if fits : storage.slotSize * 2 - 1 ≤ handleMask.toNat then do
    let newSlot ← rehash handleOf (storage.slotSize * 2) storage.slot
      storage.slotSize
    .ok
      { storage with
        slot := newSlot
        slotSize := storage.slotSize * 2
        slotPower := by
          obtain ⟨bits, _, size⟩ := storage.slotPower
          refine ⟨bits + 1, ?_, by rw [size, Nat.pow_succ]⟩
          by_contra large
          have power : 2 ^ 24 ≤ 2 ^ bits :=
            Nat.pow_le_pow_right (by decide) (by omega)
          have mask : handleMask.toNat = 16777215 := by decide
          rw [mask] at fits
          omega }
  else
    .error .assertion

/-- The loop of `skynet_handle_register`.  Every further round doubles the
table, and the assertion of the 24th fails. -/
def registerLoop (handleOf : Context → Except Fault UInt32)
    (context : Context) :
    Nat → HandleStorage Context →
      Except Fault (UInt32 × HandleStorage Context)
  | 0, _ => .error .assertion
  | rounds + 1, storage =>
      match found : freeHandle storage.slotSize storage.slot storage.slotSize
          storage.handleIndex with
      | some handle =>
          .ok (handle ||| storage.harbor,
            { storage with
              slot := Function.update storage.slot
                (hash storage.slotSize handle) (some context)
              handleIndex := handle + 1
              indexWithin := by
                have bounds := freeHandle_some storage.indexWithin.1 found
                have one : (1 : UInt32).toNat = 1 := by decide
                rw [UInt32.toNat_add]
                omega })
      | none => do
          let grown ← grow handleOf storage
          registerLoop handleOf context rounds grown

/-- `skynet_handle_register`. -/
def register (handleOf : Context → Except Fault UInt32) (context : Context)
    (storage : HandleStorage Context) :
    Except Fault (UInt32 × HandleStorage Context) :=
  registerLoop handleOf context 25 storage

/-- Clear the slot of a handle, and free its names. -/
def clear (storage : HandleStorage Context) (handle : UInt32) :
    HandleStorage Context :=
  { storage with
    slot := Function.update storage.slot (hash storage.slotSize handle) none
    name := storage.name.filter (fun entry => entry.handle ≠ handle) }

/-- The locked part of `skynet_handle_retire`: what it takes out. -/
def retire (handleOf : Context → Except Fault UInt32) (handle : UInt32)
    (storage : HandleStorage Context) :
    Except Fault (Option Context × HandleStorage Context) :=
  match storage.slot (hash storage.slotSize handle) with
  | none => .ok (none, storage)
  | some context => do
      let stored ← handleOf context
      if stored = handle then
        .ok (some context, storage.clear handle)
      else
        .ok (none, storage)

/-- The lookup of `skynet_handle_grab`. -/
def lookup (handleOf : Context → Except Fault UInt32) (handle : UInt32)
    (storage : HandleStorage Context) : Except Fault (Option Context) :=
  match storage.slot (hash storage.slotSize handle) with
  | none => .ok none
  | some context => do
      let stored ← handleOf context
      .ok (if stored = handle then some context else none)

/-- How the name at an index compares, as `strcmp` does, with the one sought. -/
def nameOrder (storage : HandleStorage Context) (name : List UInt8)
    (index : Nat) : Ordering :=
  match storage.name[index]? with
  | some entry => compare entry.name name
  | none => .gt

/-- The search in both name functions; its `stop` is one more than `end`. -/
def searchName (storage : HandleStorage Context) (name : List UInt8) :
    BinarySearch.Outcome :=
  BinarySearch.search (storage.nameOrder name) storage.name.length 0
    storage.name.length

/-- `skynet_handle_findname`. -/
def findname (storage : HandleStorage Context) (name : List UInt8) : UInt32 :=
  match storage.searchName name with
  | .found index => (storage.name[index]?.map HandleName.handle).getD 0
  | .missing _ => 0

/-- `_insert_name_before`: the entries from `before` on move up by one. -/
def insertNameBefore (storage : HandleStorage Context) (name : List UInt8)
    (handle : UInt32) (before : Nat) : Except Fault (HandleStorage Context) :=
  let name := storage.name.take before ++ ⟨name, handle⟩ ::
    storage.name.drop before
  if storage.name.length ≥ storage.nameCap then
    if storage.nameCap * 2 ≤ maxSlotSize then
      .ok { storage with nameCap := storage.nameCap * 2, name := name }
    else
      .error .assertion
  else
    .ok { storage with name := name }

/-- `skynet_handle_namehandle`, which returns the name or a null pointer. -/
def namehandle (storage : HandleStorage Context) (handle : UInt32)
    (name : List UInt8) :
    Except Fault (Option (List UInt8) × HandleStorage Context) :=
  match storage.searchName name with
  | .found _ => .ok (none, storage)
  | .missing position => do
      let inserted ← storage.insertNameBefore name handle position
      .ok (some name, inserted)

end HandleStorage

end Crynet.Skynet
