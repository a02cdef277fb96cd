import Mathlib.Data.List.Basic

/-!
# Systems that answer their inputs

A transducer reads an input, answers it and moves on, or never returns.  Two
transducers answer alike when a relation between their states is kept by every
permitted input and the answers to it are equal.  When reading one input does
what reading two does, a list of inputs can be read at once.
-/

namespace Transducer

variable {Input Answer Left Right : Type*}

/-- The answers to a list of inputs, and the state after them. -/
def answers {State : Type*} (react : State → Input → Option (Answer × State)) :
    State → List Input → Option (List Answer × State)
  | state, [] => some ([], state)
  | state, input :: inputs =>
      match react state input with
      | none => none
      | some (answer, next) =>
          match answers react next inputs with
          | none => none
          | some (later, final) => some (answer :: later, final)

theorem answers_cons {State : Type*}
    {react : State → Input → Option (Answer × State)} {state next final : State}
    {input : Input} {inputs : List Input} {answer : Answer} {later : List Answer}
    (moved : react state input = some (answer, next))
    (rest : answers react next inputs = some (later, final)) :
    answers react state (input :: inputs) = some (answer :: later, final) := by
  simp only [answers, moved, rest]

theorem answers_append {State : Type*}
    (react : State → Input → Option (Answer × State)) {state middle : State}
    {inputs more : List Input} {early : List Answer}
    (answered : answers react state inputs = some (early, middle)) :
    answers react state (inputs ++ more) =
      (answers react middle more).map fun late => (early ++ late.1, late.2) := by
  induction inputs generalizing state early with
  | nil =>
      obtain ⟨rfl, rfl⟩ := Prod.mk.inj (Option.some.inj answered)
      simp
  | cons input inputs induction =>
      simp only [answers] at answered
      split at answered
      · cases answered
      · rename_i answer next moved
        split at answered
        · cases answered
        · rename_i given final rest
          obtain ⟨rfl, rfl⟩ := Prod.mk.inj (Option.some.inj answered)
          simp only [List.cons_append, answers, moved, induction rest]
          cases answers react final more with
          | none => rfl
          | some late => rfl

/-- Every input is permitted in the state it is read in. -/
def Admissible {State : Type*}
    (react : State → Input → Option (Answer × State))
    (permitted : State → Input → Prop) : State → List Input → Prop
  | _, [] => True
  | state, input :: inputs =>
      permitted state input ∧
        ∀ answer next, react state input = some (answer, next) →
          Admissible react permitted next inputs

section

variable {State Item : Type*}
variable (react : State → Input → Option (List Item × State))

/-- The answers to a list of inputs as one. -/
def concatenated (state : State) (inputs : List Input) :
    Option (List Item × State) :=
  (answers react state inputs).map fun given => (given.1.flatten, given.2)

/-- Read two inputs and put the answers together. -/
def twice (state : State) (first second : Input) :
    Option (List Item × State) :=
  (react state first).bind fun early =>
    (react early.2 second).map fun late => (early.1 ++ late.1, late.2)

private theorem concatenated_cons (state : State) (input : Input)
    (inputs : List Input) :
    concatenated react state (input :: inputs) =
      (react state input).bind fun early =>
        (concatenated react early.2 inputs).map fun late =>
          (early.1 ++ late.1, late.2) := by
  simp only [concatenated, answers]
  cases react state input with
  | none => rfl
  | some early =>
      simp only [Option.bind_some]
      cases answers react early.2 inputs with
      | none => rfl
      | some late => rfl

/-- The merging rule. -/
theorem concatenated_of_merges {merge : Input → Input → Input}
    (merges : ∀ state first second,
      twice react state first second = react state (merge first second))
    (state : State) (first : Input) (rest : List Input) :
    concatenated react state (first :: rest) =
      react state (rest.foldl merge first) := by
  induction rest generalizing first with
  | nil =>
      rw [concatenated_cons, List.foldl_nil]
      cases react state first with
      | none => rfl
      | some early => simp [concatenated, answers]
  | cons second rest induction =>
      rw [List.foldl_cons, ← induction (merge first second), concatenated_cons,
        concatenated_cons react state (merge first second), ← merges, twice]
      cases react state first with
      | none => rfl
      | some early =>
          simp only [Option.bind_some, concatenated_cons react early.2]
          cases react early.2 second with
          | none => rfl
          | some late =>
              simp only [Option.bind_some, Option.map_some, Option.map_map]
              congr 1
              funext last
              simp only [Function.comp_apply, List.append_assoc]

end

variable (left : Left → Input → Option (Answer × Left))
variable (right : Right → Input → Option (Answer × Right))
variable (permitted : Right → Input → Prop)

/-- The simulation rule. -/
theorem answers_of_simulation (related : Left → Right → Prop)
    (simulates : ∀ state spec input, related state spec →
      permitted spec input → ∃ answer next specNext,
        left state input = some (answer, next) ∧
        right spec input = some (answer, specNext) ∧ related next specNext)
    {state : Left} {spec : Right} {inputs : List Input}
    (initially : related state spec)
    (admissible : Admissible right permitted spec inputs) :
    ∃ given final specFinal,
      answers left state inputs = some (given, final) ∧
      answers right spec inputs = some (given, specFinal) ∧
      related final specFinal := by
  induction inputs generalizing state spec with
  | nil => exact ⟨[], state, spec, rfl, rfl, initially⟩
  | cons input inputs induction =>
      obtain ⟨allowed, onward⟩ := admissible
      obtain ⟨answer, next, specNext, moved, specMoved, kept⟩ :=
        simulates state spec input initially allowed
      obtain ⟨given, final, specFinal, rest, specRest, ends⟩ :=
        induction kept (onward answer specNext specMoved)
      exact ⟨answer :: given, final, specFinal, answers_cons moved rest,
        answers_cons specMoved specRest, ends⟩

end Transducer
