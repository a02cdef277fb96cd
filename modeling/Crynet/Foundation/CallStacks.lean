import Crynet.Foundation.Execution
import Mathlib.Data.List.Count
import Mathlib.Data.List.Flatten

/-!
# Threads with call stacks

Threads that share a state, each with a stack of frames of which the topmost
moves.  Frames carry tokens, so that a balance between the shared state and the
tokens of all frames together can be kept by looking at one move at a time: the
rule asks what a move does to the balance whatever the other frames carry, and
that every other frame still fits the state, knowing what it carries.
-/

namespace CallStacks

variable {Shared Frame Token : Type*} [DecidableEq Token]

/-- A shared state and the stacks of all threads, topmost frames first. -/
structure Machine (Shared Frame : Type*) where
  shared : Shared
  threads : List (List Frame)

/-- All frames of all threads. -/
def Machine.frames (machine : Machine Shared Frame) : List Frame :=
  machine.threads.flatten

/-- Some tokens beside the ones that are carried elsewhere. -/
def load (others : Token → Nat) (tokens : List Token) (token : Token) : Nat :=
  others token + tokens.count token

section Loads

variable (others : Token → Nat)

@[simp] theorem load_nil : load others [] = others := by
  funext token
  simp [load]

theorem load_perm {first second : List Token} (same : first.Perm second) :
    load others first = load others second := by
  funext token
  simp only [load, same.count_eq]

theorem load_cons (token : Token) (tokens : List Token) (other : Token) :
    load others (token :: tokens) other =
      load others tokens other + if token = other then 1 else 0 := by
  simp only [load, List.count_cons, beq_iff_eq]
  omega

theorem le_load (tokens : List Token) (token : Token) :
    others token ≤ load others tokens token :=
  Nat.le_add_right _ _

end Loads

/-- Stacks with some frames on top of one of them. -/
theorem flatten_set_perm {threads : List (List Frame)} {thread : Nat}
    (within : thread < threads.length) (frames rest : List Frame) :
    (threads.set thread (frames ++ rest)).flatten.Perm
      (frames ++ (threads.set thread rest).flatten) := by
  induction threads generalizing thread with
  | nil => simp at within
  | cons stack others induction =>
      cases thread with
      | zero => simp
      | succ thread =>
          simp only [List.set_cons_succ, List.flatten_cons]
          have below := induction (by simpa using within)
          exact (below.append_left stack).trans
            (List.perm_append_comm_assoc stack frames _)

theorem flatten_perm_of_top {threads : List (List Frame)} {thread : Nat}
    {top : Frame} {rest : List Frame}
    (current : threads[thread]? = some (top :: rest)) :
    threads.flatten.Perm (top :: (threads.set thread rest).flatten) := by
  obtain ⟨within, found⟩ := List.getElem?_eq_some_iff.mp current
  have moved := flatten_set_perm within [top] rest
  have same : threads.set thread ([top] ++ rest) = threads := by
    rw [List.singleton_append, ← found, List.set_getElem_self]
  rwa [same] at moved

/-- The frames before and after the topmost frame of a thread. -/
theorem flatten_split {threads : List (List Frame)} {thread : Nat}
    {top : Frame} {rest : List Frame}
    (current : threads[thread]? = some (top :: rest)) :
    ∃ before after, threads.flatten = before ++ top :: after ∧
      ∀ frames, (threads.set thread (frames ++ rest)).flatten =
        before ++ frames ++ after := by
  induction threads generalizing thread with
  | nil => simp at current
  | cons stack others induction =>
      cases thread with
      | zero =>
          rw [List.getElem?_cons_zero, Option.some.injEq] at current
          refine ⟨[], rest ++ others.flatten, by simp [current], ?_⟩
          intro frames
          simp
      | succ thread =>
          obtain ⟨before, after, split, moved⟩ :=
            induction (by simpa using current)
          refine ⟨stack ++ before, after, by simp [split], ?_⟩
          intro frames
          simp only [List.set_cons_succ, List.flatten_cons, moved,
            List.append_assoc]

section Rule

variable (carries : Frame → List Token)
variable (balance : Shared → (Token → Nat) → Prop)
variable (fits : Shared → Frame → Prop)

/-- What all frames of a machine carry together. -/
def carried (frames : List Frame) : Token → Nat :=
  fun token => (frames.flatMap carries).count token

/-- The balance holds of what all frames carry, and every frame fits. -/
structure Sound (machine : Machine Shared Frame) : Prop where
  balanced : balance machine.shared (carried carries machine.frames)
  fitting : ∀ frame ∈ machine.frames, fits machine.shared frame

/-- A move of one topmost frame that keeps a machine sound, whatever the other
frames carry. -/
structure Keeps (shared next : Shared) (frames : List Frame)
    (others : Token → Nat) : Prop where
  balanced : balance next (load others (frames.flatMap carries))
  fitting : ∀ frame ∈ frames, fits next frame
  undisturbed : ∀ frame, (∀ token ∈ carries frame, 0 < others token) →
    fits shared frame → fits next frame

variable {carries balance fits}

theorem carried_of_perm {frames chosen rest : List Frame}
    (split : frames.Perm (chosen ++ rest)) :
    carried carries frames =
      load (carried carries rest) (chosen.flatMap carries) := by
  funext token
  have same := (split.flatMap_right carries).count_eq token
  rw [List.flatMap_append, List.count_append] at same
  simp only [carried, load, same]
  omega

/-- A token that is carried once is carried by one frame. -/
theorem carried_alone {before after : List Frame} {top : Frame} {token : Token}
    (once : carried carries (before ++ top :: after) token ≤ 1)
    (holds : token ∈ carries top) :
    ∀ frame ∈ before ++ after, token ∉ carries frame := by
  intro frame member again
  have first := List.count_pos_iff.mpr holds
  have second : 0 < ((before ++ after).flatMap carries).count token :=
    List.count_pos_iff.mpr (List.mem_flatMap.mpr ⟨frame, member, again⟩)
  simp only [carried, List.flatMap_append, List.flatMap_cons,
    List.count_append] at once second
  omega

/-- The rule of moves. -/
theorem Sound.move {shared next : Shared} {threads : List (List Frame)}
    {thread : Nat} {top : Frame} {rest frames : List Frame}
    (sound : Sound carries balance fits ⟨shared, threads⟩)
    (current : threads[thread]? = some (top :: rest))
    (keeps : ∀ others : Token → Nat,
      balance shared (load others (carries top)) → fits shared top →
      Keeps carries balance fits shared next frames others) :
    Sound carries balance fits ⟨next, threads.set thread (frames ++ rest)⟩ := by
  obtain ⟨within, _⟩ := List.getElem?_eq_some_iff.mp current
  have before := flatten_perm_of_top current
  have after := flatten_set_perm within frames rest
  have weighed : carried carries threads.flatten =
      load (carried carries (threads.set thread rest).flatten)
        ([top].flatMap carries) :=
    carried_of_perm before
  rw [List.flatMap_singleton] at weighed
  have balanced := sound.balanced
  simp only [Machine.frames, weighed] at balanced
  have kept := keeps _ balanced
    (sound.fitting top (before.mem_iff.mpr List.mem_cons_self))
  refine ⟨?_, ?_⟩
  · simp only [Machine.frames, carried_of_perm after]
    exact kept.balanced
  · intro frame member
    rcases List.mem_append.mp (after.mem_iff.mp member) with new | old
    · exact kept.fitting frame new
    · apply kept.undisturbed frame
      · intro token carriedHere
        exact List.count_pos_iff.mpr
          (List.mem_flatMap.mpr ⟨frame, old, carriedHere⟩)
      · exact sound.fitting frame
          (before.mem_iff.mpr (List.mem_cons_of_mem _ old))

/-- What the topmost frame of a thread can rely on. -/
theorem Sound.top {shared : Shared} {threads : List (List Frame)}
    {thread : Nat} {top : Frame} {rest : List Frame}
    (sound : Sound carries balance fits ⟨shared, threads⟩)
    (current : threads[thread]? = some (top :: rest)) :
    balance shared (load (carried carries (threads.set thread rest).flatten)
      (carries top)) ∧ fits shared top := by
  have split := flatten_perm_of_top current
  have weighed : carried carries threads.flatten =
      load (carried carries (threads.set thread rest).flatten)
        ([top].flatMap carries) :=
    carried_of_perm split
  rw [List.flatMap_singleton] at weighed
  have balanced := sound.balanced
  simp only [Machine.frames, weighed] at balanced
  exact ⟨balanced, sound.fitting top (split.mem_iff.mpr List.mem_cons_self)⟩

/-- The rule of moves for a step that may have to wait. -/
theorem Sound.act {Failure : Type*} {shared : Shared}
    {threads : List (List Frame)} {thread : Nat} {top : Frame}
    {rest : List Frame} {waits : Failure}
    {outcome : Except Failure (Shared × List Frame)}
    (sound : Sound carries balance fits ⟨shared, threads⟩)
    (current : threads[thread]? = some (top :: rest))
    (acts : ∀ others : Token → Nat,
      balance shared (load others (carries top)) → fits shared top →
      outcome = .error waits ∨ ∃ next frames, outcome = .ok (next, frames) ∧
        Keeps carries balance fits shared next frames others) :
    outcome = .error waits ∨ ∃ next frames, outcome = .ok (next, frames) ∧
      Sound carries balance fits
        ⟨next, threads.set thread (frames ++ rest)⟩ := by
  obtain ⟨balanced, fitted⟩ := sound.top current
  rcases acts _ balanced fitted with stopped | ⟨next, frames, done, _⟩
  · exact Or.inl stopped
  · refine Or.inr ⟨next, frames, done, sound.move current ?_⟩
    intro others weighed fit
    rcases acts others weighed fit with stopped | ⟨same, kept, again, keeps⟩
    · rw [done] at stopped
      simp at stopped
    · rw [done] at again
      obtain ⟨rfl, rfl⟩ := Prod.mk.inj (Except.ok.inj again)
      exact keeps

end Rule

end CallStacks
