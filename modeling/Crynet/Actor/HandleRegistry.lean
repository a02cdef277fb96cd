import Crynet.Actor.ServiceContext
import Crynet.Foundation.AssociationMap
import Crynet.Foundation.ModularCounter

/-!
# The handle registry

Allocates handles from a 64-bit counter and keeps handles and non-empty names
in two maps that are updated one after the other.
-/

namespace Crynet

structure HandleRegistry where
  nextHandle : ServiceHandle := 1
  handleToName : AList (fun _ : ServiceHandle => Text) := ∅
  nameToHandle : AList (fun _ : Text => ServiceHandle) := ∅

namespace HandleRegistry

def contains (registry : HandleRegistry) (handle : ServiceHandle) : Bool :=
  decide (handle ∈ registry.handleToName)

/-- No value when the skipping loop never ends. -/
def allocate (registry : HandleRegistry) :
    Option (ServiceHandle × HandleRegistry) :=
  match ModularCounter.firstFree registry.contains registry.nextHandle with
  | none => none
  | some handle => some (handle, { registry with nextHandle := handle + 1 })

def registerService (registry : HandleRegistry) (context : ServiceContext) :
    Bool × HandleRegistry :=
  if context.handle = 0 ∨ registry.contains context.handle = true then
    (false, registry)
  else if context.serviceName ≠ [] then
    if context.serviceName ∈ registry.nameToHandle then
      (false, registry)
    else
      (true,
        { registry with
          nameToHandle := AssociationMap.emplace registry.nameToHandle
            context.serviceName context.handle
          handleToName := AssociationMap.emplace registry.handleToName
            context.handle context.serviceName })
  else
    (true,
      { registry with
        handleToName := AssociationMap.emplace registry.handleToName
          context.handle context.serviceName })

def unregister (registry : HandleRegistry) (handle : ServiceHandle) :
    Bool × HandleRegistry :=
  match registry.handleToName.lookup handle with
  | none => (false, registry)
  | some name =>
      (true,
        { registry with
          nameToHandle :=
            if name ≠ [] then registry.nameToHandle.erase name
            else registry.nameToHandle
          handleToName := registry.handleToName.erase handle })

def findHandle (registry : HandleRegistry) (serviceName : Text) :
    Option ServiceHandle :=
  registry.nameToHandle.lookup serviceName

@[simp] theorem contains_iff
    (registry : HandleRegistry) (handle : ServiceHandle) :
    registry.contains handle = true ↔ handle ∈ registry.handleToName := by
  simp [contains]

/-- Allocation answers a free non-zero handle and moves only the counter. -/
theorem allocate_some
    {registry next : HandleRegistry} {handle : ServiceHandle}
    (allocated : registry.allocate = some (handle, next)) :
    handle ≠ 0 ∧ handle ∉ registry.handleToName ∧
      next = { registry with nextHandle := handle + 1 } := by
  unfold allocate at allocated
  cases search : ModularCounter.firstFree registry.contains
      registry.nextHandle with
  | none => simp [search] at allocated
  | some found =>
      simp only [search, Option.some.injEq, Prod.mk.injEq] at allocated
      obtain ⟨rfl, rfl⟩ := allocated
      obtain ⟨nonzero, free⟩ := ModularCounter.firstFree_some search
      refine ⟨nonzero, ?_, rfl⟩
      intro member
      rw [(registry.contains_iff found).mpr member] at free
      cases free

theorem allocate_of_free
    {registry : HandleRegistry} (nonzero : registry.nextHandle ≠ 0)
    (free : registry.nextHandle ∉ registry.handleToName) :
    registry.allocate = some (registry.nextHandle,
      { registry with nextHandle := registry.nextHandle + 1 }) := by
  have unoccupied : registry.contains registry.nextHandle = false := by
    simp [contains, free]
  simp [allocate, ModularCounter.firstFree_of_free nonzero unoccupied]

/-- A registration that succeeds adds exactly its own handle. -/
theorem registerService_true
    {registry next : HandleRegistry} {context : ServiceContext}
    (registered : registry.registerService context = (true, next)) :
    context.handle ≠ 0 ∧ context.handle ∉ registry.handleToName ∧
      next.nextHandle = registry.nextHandle ∧
      ∀ handle, handle ∈ next.handleToName ↔
        handle = context.handle ∨ handle ∈ registry.handleToName := by
  unfold registerService at registered
  split at registered
  · simp at registered
  · rename_i acceptable
    simp only [contains_iff, not_or] at acceptable
    have added : AssociationMap.emplace registry.handleToName context.handle
        context.serviceName =
          registry.handleToName.insert context.handle context.serviceName :=
      AssociationMap.emplace_of_notMem acceptable.2 _
    split at registered
    · split at registered
      · simp at registered
      · simp only [Prod.mk.injEq, true_and] at registered
        subst registered
        refine ⟨acceptable.1, acceptable.2, rfl, ?_⟩
        intro handle
        simp only [added, AList.mem_insert]
    · simp only [Prod.mk.injEq, true_and] at registered
      subst registered
      refine ⟨acceptable.1, acceptable.2, rfl, ?_⟩
      intro handle
      simp only [added, AList.mem_insert]

theorem registerService_false
    {registry next : HandleRegistry} {context : ServiceContext}
    (refused : registry.registerService context = (false, next)) :
    next = registry := by
  unfold registerService at refused
  split at refused
  · simpa using refused.symm
  · split at refused
    · split at refused
      · simpa using refused.symm
      · simp at refused
    · simp at refused

/-- The name map is the inverse of the handle map on non-empty names. -/
def Inverse (registry : HandleRegistry) : Prop :=
  ∀ name handle, registry.nameToHandle.lookup name = some handle ↔
    name ≠ [] ∧ registry.handleToName.lookup handle = some name

/-- What a registration that succeeds does to the two maps. -/
theorem registerService_maps
    {registry next : HandleRegistry} {context : ServiceContext}
    (registered : registry.registerService context = (true, next)) :
    next.handleToName =
        registry.handleToName.insert context.handle context.serviceName ∧
      (context.serviceName = [] ∧ next.nameToHandle = registry.nameToHandle ∨
        context.serviceName ≠ [] ∧
          context.serviceName ∉ registry.nameToHandle ∧
          next.nameToHandle = registry.nameToHandle.insert
            context.serviceName context.handle) := by
  unfold registerService at registered
  split at registered
  · simp at registered
  · rename_i acceptable
    simp only [contains_iff, not_or] at acceptable
    split at registered
    · rename_i named
      split at registered
      · simp at registered
      · rename_i unknown
        simp only [Prod.mk.injEq, true_and] at registered
        subst registered
        exact ⟨AssociationMap.emplace_of_notMem acceptable.2 _,
          Or.inr ⟨named, unknown,
            AssociationMap.emplace_of_notMem unknown _⟩⟩
    · rename_i nameless
      simp only [Prod.mk.injEq, true_and] at registered
      subst registered
      exact ⟨AssociationMap.emplace_of_notMem acceptable.2 _,
        Or.inl ⟨not_not.mp nameless, rfl⟩⟩

theorem registerService_inverse
    {registry next : HandleRegistry} {context : ServiceContext}
    (inverse : registry.Inverse)
    (registered : registry.registerService context = (true, next)) :
    next.Inverse := by
  obtain ⟨_, fresh, _, _⟩ := registerService_true registered
  have unbound : ∀ name,
      registry.handleToName.lookup context.handle ≠ some name := by
    intro name bound
    exact fresh (AssociationMap.mem_of_lookup bound)
  obtain ⟨handles, names⟩ := registerService_maps registered
  intro name handle
  rw [handles, AssociationMap.lookup_insert_eq]
  rcases names with ⟨nameless, names⟩ | ⟨named, unknown, names⟩
  · rw [names, inverse]
    by_cases same : handle = context.handle
    · subst same
      simp only [if_true, nameless, Option.some.injEq]
      constructor
      · rintro ⟨_, bound⟩
        exact absurd bound (unbound name)
      · rintro ⟨nonempty, empty⟩
        exact absurd empty.symm nonempty
    · rw [if_neg same]
  · rw [names, AssociationMap.lookup_insert_eq]
    by_cases sameName : name = context.serviceName
    · subst sameName
      by_cases same : handle = context.handle
      · subst same
        simp [named]
      · rw [if_pos rfl, if_neg same]
        constructor
        · intro equal
          exact absurd (Option.some.inj equal).symm same
        · intro bound
          exact absurd (AssociationMap.mem_of_lookup ((inverse _ _).mpr bound))
            unknown
    · rw [if_neg sameName, inverse]
      by_cases same : handle = context.handle
      · subst same
        simp only [if_true, Option.some.injEq]
        constructor
        · rintro ⟨_, bound⟩
          exact absurd bound (unbound name)
        · rintro ⟨_, equal⟩
          exact absurd equal.symm sameName
      · rw [if_neg same]

theorem unregister_inverse {registry : HandleRegistry}
    (inverse : registry.Inverse) (handle : ServiceHandle) :
    (registry.unregister handle).2.Inverse := by
  unfold unregister
  cases found : registry.handleToName.lookup handle with
  | none => exact inverse
  | some known =>
      intro name other
      simp only
      rw [AssociationMap.lookup_erase_eq]
      by_cases same : other = handle
      · subst same
        simp only [if_true, reduceCtorEq, and_false, iff_false]
        intro bound
        split at bound
        · rename_i named
          rw [AssociationMap.lookup_erase_eq] at bound
          split at bound
          · cases bound
          · rename_i different
            obtain ⟨_, again⟩ := (inverse name other).mp bound
            rw [found] at again
            exact different (Option.some.inj again).symm
        · rename_i nameless
          obtain ⟨nonempty, again⟩ := (inverse name other).mp bound
          rw [found] at again
          exact nameless (Option.some.inj again ▸ nonempty)
      · rw [if_neg same, ← inverse]
        split
        · rename_i named
          rw [AssociationMap.lookup_erase_eq]
          by_cases sameName : name = known
          · subst sameName
            rw [if_pos rfl]
            constructor
            · intro impossible
              cases impossible
            · intro bound
              rw [(inverse name handle).mpr ⟨named, found⟩] at bound
              exact absurd (Option.some.inj bound).symm same
          · rw [if_neg sameName]
        · rfl

@[simp] theorem unregister_nextHandle
    (registry : HandleRegistry) (handle : ServiceHandle) :
    (registry.unregister handle).2.nextHandle = registry.nextHandle := by
  unfold unregister
  split <;> rfl

theorem lookup_unregister
    (registry : HandleRegistry) (handle other : ServiceHandle) :
    (registry.unregister handle).2.handleToName.lookup other =
      if other = handle then none else registry.handleToName.lookup other := by
  unfold unregister
  cases found : registry.handleToName.lookup handle with
  | none =>
      simp only
      split
      · rename_i same
        rw [same, found]
      · rfl
  | some name => exact AssociationMap.lookup_erase_eq _ _ _

/-- After `unregister`, exactly the given handle is gone. -/
theorem mem_unregister
    (registry : HandleRegistry) (handle other : ServiceHandle) :
    other ∈ (registry.unregister handle).2.handleToName ↔
      other ≠ handle ∧ other ∈ registry.handleToName := by
  unfold unregister
  cases found : registry.handleToName.lookup handle with
  | none =>
      have absent : handle ∉ registry.handleToName :=
        AssociationMap.lookup_none_iff.mp found
      simp only
      constructor
      · intro member
        exact ⟨fun same => absent (same ▸ member), member⟩
      · exact And.right
  | some name => simp [AList.mem_erase]

/-- No handle is added. -/
structure Shrinks (registry next : HandleRegistry) : Prop where
  counter : next.nextHandle = registry.nextHandle
  kept : ∀ handle ∈ next.handleToName, handle ∈ registry.handleToName

theorem Shrinks.of_eq {registry next : HandleRegistry}
    (same : next = registry) : registry.Shrinks next := by
  rw [same]
  exact ⟨rfl, fun _ member => member⟩

theorem Shrinks.trans {registry next final : HandleRegistry}
    (first : registry.Shrinks next) (second : next.Shrinks final) :
    registry.Shrinks final :=
  ⟨second.counter.trans first.counter, fun handle member =>
    first.kept handle (second.kept handle member)⟩

theorem unregister_shrinks (registry : HandleRegistry)
    (handle : ServiceHandle) :
    registry.Shrinks (registry.unregister handle).2 :=
  ⟨registry.unregister_nextHandle handle, fun other member =>
    ((registry.mem_unregister handle other).mp member).2⟩

/-- Handles have been given out one after the other. -/
structure Numbered (registry : HandleRegistry) (count : Nat) : Prop where
  counter : registry.nextHandle = UInt64.ofNat (count + 1)
  bounded : ∀ handle ∈ registry.handleToName, handle.toNat ≤ count

namespace Numbered

variable {registry next : HandleRegistry} {count : Nat}

theorem shrinks (numbered : registry.Numbered count)
    (shrinks : registry.Shrinks next) : next.Numbered count :=
  ⟨shrinks.counter.trans numbered.counter, fun handle member =>
    numbered.bounded handle (shrinks.kept handle member)⟩

/-- Until the counter comes around, the next handle is the next number. -/
theorem allocate_eq (numbered : registry.Numbered count)
    (few : count + 1 < 2 ^ 64) :
    registry.allocate = some (UInt64.ofNat (count + 1),
      { registry with nextHandle := UInt64.ofNat (count + 1) + 1 }) := by
  have search : ModularCounter.firstFree registry.contains
      registry.nextHandle = some (UInt64.ofNat (count + 1)) := by
    rw [numbered.counter]
    apply ModularCounter.firstFree_numbered few
    intro value taken
    exact numbered.bounded value ((registry.contains_iff value).mp taken)
  simp only [allocate, search]

theorem allocated (numbered : registry.Numbered count)
    (few : count + 1 < 2 ^ 64) {handle : ServiceHandle}
    (allocated : registry.allocate = some (handle, next)) :
    handle.toNat = count + 1 ∧ next.Numbered (count + 1) := by
  rw [numbered.allocate_eq few, Option.some.injEq, Prod.mk.injEq] at allocated
  obtain ⟨rfl, rfl⟩ := allocated
  refine ⟨UInt64.toNat_ofNat_of_lt' few, ?_, ?_⟩
  · exact (UInt64.ofNat_add (count + 1) 1).symm
  · intro handle member
    exact Nat.le_succ_of_le (numbered.bounded handle member)

/-- Registering an allocated handle keeps the numbering. -/
theorem registered (numbered : registry.Numbered count)
    {context : ServiceContext} (bound : context.handle.toNat ≤ count)
    (registered : registry.registerService context = (true, next)) :
    next.Numbered count := by
  obtain ⟨_, _, counter, handles⟩ := registerService_true registered
  refine ⟨counter.trans numbered.counter, ?_⟩
  intro handle member
  rcases (handles handle).mp member with same | old
  · rw [same]
    exact bound
  · exact numbered.bounded handle old

end Numbered

end HandleRegistry

end Crynet
