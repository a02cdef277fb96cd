import Crynet.Foundation.Execution

/-!
# Calls that share an atomic variable

Any number of calls run one procedure each and share one variable.  What is
atomic is a single load or a single weak compare-exchange.  A load may return
any value that the variable has held.  A compare-exchange compares with the
latest value; it may also fail although it would not have to, and then reports
any value that the variable has held.

The rule at the end is the one for interference: an assertion of each call that
no step of another call can break holds in every state that is reached.
-/

namespace Atomic

open Transition

variable {Value State Argument : Type*}

/-- A variable with the values it held before, the last one first. -/
structure Variable (Value : Type*) where
  latest : Value
  earlier : List Value := []

namespace Variable

def history (shared : Variable Value) : List Value :=
  shared.latest :: shared.earlier

def store (shared : Variable Value) (value : Value) : Variable Value :=
  { latest := value, earlier := shared.history }

@[simp] theorem latest_store (shared : Variable Value) (value : Value) :
    (shared.store value).latest = value :=
  rfl

theorem latest_mem (shared : Variable Value) :
    shared.latest ∈ shared.history :=
  List.mem_cons_self

theorem mem_store_iff {shared : Variable Value} {stored value : Value} :
    value ∈ (shared.store stored).history ↔
      value = stored ∨ value ∈ shared.history :=
  List.mem_cons

end Variable

/-- What a compare-exchange tells its caller. -/
inductive Outcome (Value : Type*) where
  | stored
  | refused (seen : Value)

/-- A weak compare-exchange and the variable after it. -/
inductive CompareExchangeWeak (shared : Variable Value)
    (expected desired : Value) : Outcome Value → Variable Value → Prop where
  | stored :
      expected = shared.latest →
      CompareExchangeWeak shared expected desired .stored
        (shared.store desired)
  | refused :
      expected ≠ shared.latest →
      CompareExchangeWeak shared expected desired (.refused shared.latest)
        shared
  | spurious {seen : Value} :
      seen ∈ shared.history →
      CompareExchangeWeak shared expected desired (.refused seen) shared

/-- What a call does next. -/
inductive Instruction (Value State : Type*) where
  | returned
  | load (resume : Value → State)
  | compareExchangeWeak (expected desired : Value)
      (resume : Outcome Value → State)

/-- A procedure says where a call begins and what it does in each state. -/
structure Procedure (Value State Argument : Type*) where
  enter : Argument → State
  next : Argument → State → Instruction Value State

structure Call (State Argument : Type*) where
  argument : Argument
  state : State

/-- The variable and the calls that have been entered. -/
structure Pool (Value State Argument : Type*) where
  shared : Variable Value
  calls : List (Call State Argument) := []

/-- A call is entered, or the call at a position takes its next step. -/
inductive Move (Value Argument : Type*) where
  | enter (argument : Argument)
  | load (position : Nat) (seen : Value)
  | exchange (position : Nat) (outcome : Outcome Value)

namespace Pool

def arguments (pool : Pool Value State Argument) : List Argument :=
  pool.calls.map Call.argument

/-- The call at a position goes on in a state. -/
def resume (pool : Pool Value State Argument) (position : Nat)
    (call : Call State Argument) (state : State) :
    Pool Value State Argument :=
  { pool with calls := pool.calls.set position { call with state := state } }

private theorem arguments_resume {pool : Pool Value State Argument}
    {position : Nat} {call : Call State Argument}
    (found : pool.calls[position]? = some call) (state : State) :
    (pool.resume position call state).arguments = pool.arguments := by
  obtain ⟨inside, here⟩ := List.getElem?_eq_some_iff.mp found
  apply List.ext_getElem?
  intro other
  simp only [arguments, resume, List.map_set, List.getElem?_set,
    List.length_map, List.getElem?_map]
  split
  · rename_i same
    subst same
    simp [inside, here]
  · rfl

private theorem mem_resume {pool : Pool Value State Argument}
    {position : Nat} {call other : Call State Argument} {state : State}
    (member : other ∈ (pool.resume position call state).calls) :
    other = { call with state := state } ∨ other ∈ pool.calls := by
  rcases List.mem_or_eq_of_mem_set member with old | new
  · exact Or.inr old
  · exact Or.inl new

end Pool

/-- One move of the calls of a procedure. -/
inductive Step (procedure : Procedure Value State Argument) :
    Pool Value State Argument → Move Value Argument →
      Pool Value State Argument → Prop where
  | enter {pool : Pool Value State Argument} (argument : Argument) :
      Step procedure pool (.enter argument)
        { pool with
          calls := pool.calls ++
            [{ argument := argument, state := procedure.enter argument }] }
  | load {pool : Pool Value State Argument} {position : Nat}
      {call : Call State Argument} {resume : Value → State} {seen : Value} :
      pool.calls[position]? = some call →
      procedure.next call.argument call.state = .load resume →
      seen ∈ pool.shared.history →
      Step procedure pool (.load position seen)
        (pool.resume position call (resume seen))
  | exchange {pool : Pool Value State Argument} {position : Nat}
      {call : Call State Argument} {expected desired : Value}
      {resume : Outcome Value → State} {outcome : Outcome Value}
      {shared : Variable Value} :
      pool.calls[position]? = some call →
      procedure.next call.argument call.state =
        .compareExchangeWeak expected desired resume →
      CompareExchangeWeak pool.shared expected desired outcome shared →
      Step procedure pool (.exchange position outcome)
        { pool.resume position call (resume outcome) with shared := shared }

/-- Any interleaving of the moves of calls. -/
abbrev Interleaving (procedure : Procedure Value State Argument) :
    Pool Value State Argument → List (Move Value Argument) →
      Pool Value State Argument → Prop :=
  Execution (Step procedure) fun _ _ => True

/-- Every call has come to its end. -/
def Pool.Returned (procedure : Procedure Value State Argument)
    (pool : Pool Value State Argument) : Prop :=
  ∀ call ∈ pool.calls,
    procedure.next call.argument call.state = .returned

/-- What is asserted of the variable, and of each call beside it; both may
speak about the arguments of the calls entered so far. -/
structure Assertion (Value State Argument : Type*) where
  sound : List Argument → Variable Value → Prop
  claims : List Argument → Variable Value → Argument → State → Prop

/-- The assertion of a call is kept by its own moves and by those of others. -/
structure Assertion.Stable (assertion : Assertion Value State Argument)
    (procedure : Procedure Value State Argument) : Prop where
  entered : ∀ {arguments : List Argument} {shared : Variable Value}
      (argument : Argument),
    assertion.sound arguments shared →
      assertion.sound (arguments ++ [argument]) shared ∧
        assertion.claims (arguments ++ [argument]) shared argument
          (procedure.enter argument) ∧
        ∀ other state, assertion.claims arguments shared other state →
          assertion.claims (arguments ++ [argument]) shared other state
  loaded : ∀ {arguments : List Argument} {shared : Variable Value}
      {argument : Argument} {state : State} {resume : Value → State}
      {seen : Value},
    assertion.sound arguments shared →
    assertion.claims arguments shared argument state →
    procedure.next argument state = .load resume →
    seen ∈ shared.history →
      assertion.claims arguments shared argument (resume seen)
  exchanged : ∀ {arguments : List Argument} {shared next : Variable Value}
      {argument : Argument} {state : State} {expected desired : Value}
      {resume : Outcome Value → State} {outcome : Outcome Value},
    assertion.sound arguments shared →
    assertion.claims arguments shared argument state →
    procedure.next argument state =
      .compareExchangeWeak expected desired resume →
    CompareExchangeWeak shared expected desired outcome next →
      assertion.sound arguments next ∧
        assertion.claims arguments next argument (resume outcome) ∧
        ∀ other state, assertion.claims arguments shared other state →
          assertion.claims arguments next other state

/-- The assertion holds of the variable and of every call. -/
structure Assertion.Holds (assertion : Assertion Value State Argument)
    (pool : Pool Value State Argument) : Prop where
  sound : assertion.sound pool.arguments pool.shared
  claims : ∀ call ∈ pool.calls,
    assertion.claims pool.arguments pool.shared call.argument call.state

namespace Assertion

variable {assertion : Assertion Value State Argument}
variable {procedure : Procedure Value State Argument}
variable {pool next start final : Pool Value State Argument}
variable {move : Move Value Argument} {moves : List (Move Value Argument)}

/-- No move breaks a stable assertion. -/
theorem Holds.step (stable : assertion.Stable procedure)
    (holds : assertion.Holds pool) (step : Step procedure pool move next) :
    assertion.Holds next := by
  cases step with
  | enter argument =>
      obtain ⟨sound, fresh, others⟩ := stable.entered argument holds.sound
      have extended : Pool.arguments { pool with calls := pool.calls ++
          [{ argument := argument, state := procedure.enter argument }] } =
            pool.arguments ++ [argument] := by
        simp [Pool.arguments]
      constructor
      · rw [extended]
        exact sound
      · intro call member
        rw [extended]
        rcases List.mem_append.mp member with old | new
        · exact others _ _ (holds.claims call old)
        · rw [List.mem_singleton.mp new]
          exact fresh
  | @load position call resume seen found instruction read =>
      have here := holds.claims call (List.mem_of_getElem? found)
      have resumed := stable.loaded holds.sound here instruction read
      constructor
      · rw [Pool.arguments_resume found]
        exact holds.sound
      · intro other member
        rw [Pool.arguments_resume found]
        rcases Pool.mem_resume member with rfl | old
        · exact resumed
        · exact holds.claims other old
  | @exchange position call expected desired resume outcome shared found
      instruction exchanged =>
      have here := holds.claims call (List.mem_of_getElem? found)
      obtain ⟨sound, resumed, others⟩ :=
        stable.exchanged holds.sound here instruction exchanged
      have kept := Pool.arguments_resume found (resume outcome)
      constructor
      · show assertion.sound (pool.resume position call _).arguments shared
        rw [kept]
        exact sound
      · intro other member
        show assertion.claims (pool.resume position call _).arguments shared
          other.argument other.state
        rw [kept]
        rcases Pool.mem_resume member with rfl | old
        · exact resumed
        · exact others _ _ (holds.claims other old)

/-- The rule for interference. -/
theorem Holds.interleaved (stable : assertion.Stable procedure)
    (holds : assertion.Holds start)
    (interleaving : Interleaving procedure start moves final) :
    assertion.Holds final :=
  interleaving.invariant assertion.Holds holds
    fun _ _ _ before _ step => before.step stable step

end Assertion

end Atomic
