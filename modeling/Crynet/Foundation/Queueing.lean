import Crynet.Foundation.Execution
import Mathlib.Data.List.Nodup

/-!
# First in, first out along an execution

A queue from which every step takes at the front and to which it adds at the
back: what is taken along an execution is what the queue held, in its order,
and then what has been added.
-/

namespace Transition

variable {State Label Failure Item : Type*}

/-- The items taken and the final queue continue the queue at the start. -/
theorem Execution.queue_advances
    {function : State → Label → Except Failure State}
    {permitted : State → Label → Prop} {start current : State}
    {labels : List Label} (queue : State → List Item)
    (taken : State → Label → List Item)
    (advances : ∀ current label next, permitted current label →
      function current label = .ok next →
        queue current <+: taken current label ++ queue next)
    (execution :
      Execution (returning function) permitted start labels current) :
    queue start <+:
      observations function taken start labels ++ queue current := by
  apply execution.observed_invariant taken
    fun _ events state => queue start <+: events ++ queue state
  · exact List.prefix_refl _
  · intro labels events current label next before allowed stepped
    rw [List.append_assoc]
    apply before.trans
    rw [List.prefix_append_right_inj]
    exact advances current label next allowed stepped

variable {waiting taken left : List Item}

/-- An item comes out at its position, and not before it. -/
theorem taken_at_position (advanced : waiting <+: taken ++ left)
    (distinct : waiting.Nodup) {position : Nat} {item : Item}
    (queued : waiting[position]? = some item)
    (enough : position < taken.length) :
    taken[position]? = some item ∧ item ∉ taken.take position := by
  obtain ⟨more, whole⟩ := advanced
  obtain ⟨inside, found⟩ := List.getElem?_eq_some_iff.mp queued
  have here : (waiting ++ more)[position]? = some item := by
    rw [List.getElem?_append_left inside]
    exact queued
  rw [whole, List.getElem?_append_left enough] at here
  refine ⟨here, ?_⟩
  intro member
  have same : taken.take position = waiting.take position := by
    have both := congrArg (List.take position) whole
    rw [List.take_append_of_le_length (Nat.le_of_lt inside),
      List.take_append_of_le_length (Nat.le_of_lt enough)] at both
    exact both.symm
  rw [same] at member
  obtain ⟨earlier, bound, again⟩ := List.mem_take_iff_getElem.mp member
  have before : earlier < position := by omega
  have equal := distinct.getElem_inj_iff.mp (again.trans found.symm)
  omega

/-- An item that has not come out has moved up. -/
theorem still_queued (advanced : waiting <+: taken ++ left) {position : Nat}
    {item : Item} (queued : waiting[position]? = some item)
    (early : taken.length ≤ position) :
    left[position - taken.length]? = some item := by
  obtain ⟨more, whole⟩ := advanced
  obtain ⟨inside, _⟩ := List.getElem?_eq_some_iff.mp queued
  have here : (waiting ++ more)[position]? = some item := by
    rw [List.getElem?_append_left inside]
    exact queued
  rw [whole, List.getElem?_append_right early] at here
  exact here

/-- Nothing that joins the queue later overtakes what waits in it. -/
theorem not_overtaken {last : Item}
    (advanced : waiting <+: taken ++ last :: left) (joined : last ∉ waiting) :
    waiting <+: taken := by
  obtain ⟨more, whole⟩ := advanced
  rcases List.append_eq_append_iff.mp whole with
    ⟨rest, shape, _⟩ | ⟨rest, shape, after⟩
  · exact ⟨rest, shape.symm⟩
  · cases rest with
    | nil =>
        rw [List.append_nil] at shape
        exact shape ▸ List.prefix_refl _
    | cons item rest =>
        simp only [List.cons_append, List.cons.injEq] at after
        exfalso
        apply joined
        rw [shape, ← after.1]
        exact List.mem_append_right _ List.mem_cons_self

end Transition
