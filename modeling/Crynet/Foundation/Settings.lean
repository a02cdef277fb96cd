import Crynet.Foundation.AssociationMap

/-!
# Settings made one after the other

A list of changes is applied to a state.  A field that each change sets or
leaves alone has the last value it was set to; a field that changes add to has
everything that was added, in order.  A map that is written has the last value
written at each key.  Changes come from items that may fail to be one.
-/

namespace Settings

variable {State Change Value Item : Type*}

/-- The last value that is set. -/
def last (value : Change → Option Value) (changes : List Change) :
    Option Value :=
  (changes.filterMap value).getLast?

theorem last_append (value : Change → Option Value)
    (first second : List Change) :
    last value (first ++ second) = (last value second).or (last value first) := by
  unfold last
  rw [List.filterMap_append, List.getLast?_append]

theorem last_isSome_iff (value : Change → Option Value)
    (changes : List Change) :
    (last value changes).isSome = true ↔
      ∃ change ∈ changes, (value change).isSome = true := by
  unfold last
  rw [List.getLast?_isSome, ne_eq, List.filterMap_eq_nil_iff]
  simp [Option.isSome_iff_ne_none]

/-- A field that a change sets or leaves alone. -/
theorem foldl_last {step : State → Change → State} {field : State → Value}
    {value : Change → Option Value}
    (sets : ∀ state change,
      field (step state change) = (value change).getD (field state))
    (changes : List Change) (start : State) :
    field (changes.foldl step start) =
      (last value changes).getD (field start) := by
  induction changes generalizing start with
  | nil => rfl
  | cons change changes induction =>
      have shape : change :: changes = [change] ++ changes := rfl
      rw [List.foldl_cons, induction, sets, shape, last_append]
      cases last value changes with
      | some later => rfl
      | none =>
          cases set : value change with
          | none => simp [last, set]
          | some first => simp [last, set]

/-- A field that changes add to. -/
theorem foldl_collected {step : State → Change → State}
    {field : State → List Value} {value : Change → Option Value}
    (adds : ∀ state change,
      field (step state change) = field state ++ (value change).toList)
    (changes : List Change) (start : State) :
    field (changes.foldl step start) =
      field start ++ changes.filterMap value := by
  induction changes generalizing start with
  | nil => exact (List.append_nil _).symm
  | cons change changes induction =>
      rw [List.foldl_cons, induction, adds, List.filterMap_cons,
        List.append_assoc]
      cases value change with
      | none => rfl
      | some added => rfl

/-- Items that all are changes are the changes they are. -/
theorem mapM_some_iff {read : Item → Option Change} {items : List Item}
    {changes : List Change} :
    items.mapM read = some changes ↔
      (∀ item ∈ items, (read item).isSome = true) ∧
        changes = items.filterMap read := by
  induction items generalizing changes with
  | nil =>
      constructor
      · rintro ⟨⟩
        exact ⟨nofun, rfl⟩
      · rintro ⟨_, rfl⟩
        rfl
  | cons item items induction =>
      rw [List.mapM_cons, List.filterMap_cons, List.forall_mem_cons]
      cases read item with
      | none => simp
      | some first =>
          cases rest : items.mapM read with
          | none =>
              constructor
              · exact nofun
              · rintro ⟨⟨_, all⟩, _⟩
                have found := induction.mpr ⟨all, rfl⟩
                rw [rest] at found
                cases found
          | some later =>
              obtain ⟨all, same⟩ := induction.mp rest
              rw [same]
              constructor
              · rintro ⟨⟩
                exact ⟨⟨rfl, all⟩, rfl⟩
              · rintro ⟨_, rfl⟩
                rfl

section Writing

variable {Key : Type*} [DecidableEq Key] {key : Item → Key}
variable {content : Item → Value}

/-- What an item writes at a key. -/
def written (key : Item → Key) (content : Item → Value) (here : Key)
    (item : Item) : Option Value :=
  if here = key item then some (content item) else none

theorem lookup_foldl_insert (map : AList (fun _ : Key => Value))
    (items : List Item) (here : Key) :
    (items.foldl (fun map item => map.insert (key item) (content item))
        map).lookup here =
      (last (written key content here) items).or (map.lookup here) := by
  induction items generalizing map with
  | nil => rfl
  | cons item items induction =>
      have shape : item :: items = [item] ++ items := rfl
      rw [List.foldl_cons, induction, shape, last_append, Option.or_assoc,
        AssociationMap.lookup_insert_eq]
      by_cases same : here = key item
      · simp [last, written, same]
      · simp [last, written, same]

/-- When each key is written once, nothing is overwritten. -/
theorem last_of_distinct {items : List Item}
    (distinct : (items.map key).Nodup) {item : Item} (member : item ∈ items) :
    last (written key content (key item)) items = some (content item) := by
  induction items with
  | nil => cases member
  | cons first items induction =>
      have shape : first :: items = [first] ++ items := rfl
      rw [List.map_cons, List.nodup_cons] at distinct
      rw [shape, last_append]
      rcases List.mem_cons.mp member with rfl | later
      · have silent : last (written key content (key item)) items = none := by
          apply Option.not_isSome_iff_eq_none.mp
          rw [last_isSome_iff]
          rintro ⟨other, listed, writes⟩
          apply distinct.1
          unfold written at writes
          split at writes
          · rename_i same
            rw [same]
            exact List.mem_map_of_mem listed
          · cases writes
        rw [silent]
        simp [last, written]
      · rw [induction distinct.2 later]
        rfl

end Writing

end Settings
