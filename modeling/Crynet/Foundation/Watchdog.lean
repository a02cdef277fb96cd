import Mathlib.Data.List.Induction

/-!
# A watchdog

A job starts and stops; a watchdog checks from time to time whether a job has
gone on since the last check.  What it should say depends on the events since
the last start alone.  Watchdogs that keep two counters, one advanced by the
job and one copied from it by the checks, encode this history, and there is
some freedom in when the second counter is copied.
-/

namespace Watchdog

variable {Job : Type*}

inductive Event (Job : Type*) where
  | start (job : Job)
  | stop
  | check

/-- No job runs, a job has not been checked yet, or it has. -/
inductive Watch (Job : Type*) where
  | quiet
  | started (job : Job)
  | watched (job : Job)

namespace Watch

def step : Watch Job → Event Job → Watch Job
  | _, .start job => .started job
  | _, .stop => .quiet
  | .quiet, .check => .quiet
  | .started job, .check => .watched job
  | .watched job, .check => .watched job

/-- The job that a check made now finds stalled. -/
def verdict : Watch Job → Option Job
  | .watched job => some job
  | _ => none

def after (events : List (Event Job)) : Watch Job :=
  events.foldl step .quiet

theorem after_snoc (events : List (Event Job)) (event : Event Job) :
    after (events ++ [event]) = (after events).step event := by
  simp [after, List.foldl_append]

@[simp] theorem verdict_iff {watch : Watch Job} {job : Job} :
    watch.verdict = some job ↔ watch = .watched job := by
  cases watch with
  | quiet => simp [verdict]
  | started other => simp [verdict]
  | watched other => simp [verdict]

/-- Checks after a start, as many as there are. -/
theorem after_start (before : List (Event Job)) (job : Job)
    {checks : List (Event Job)} (only : ∀ event ∈ checks, event = .check) :
    after (before ++ .start job :: checks) =
      if checks = [] then .started job else .watched job := by
  induction checks using List.reverseRecOn with
  | nil =>
      rw [after_snoc]
      rfl
  | append_singleton checks event induction =>
      have last : event = .check := only event (by simp)
      have earlier : ∀ event ∈ checks, event = .check := by
        intro event member
        exact only event (List.mem_append_left _ member)
      have whole : before ++ .start job :: (checks ++ [event]) =
          (before ++ .start job :: checks) ++ [event] := by
        simp
      rw [whole, after_snoc, induction earlier, last]
      split
      · simp [step]
      · simp [step]

/-- A job runs when it has been started and only been checked since. -/
theorem running_cases {events : List (Event Job)} {job : Job}
    (running : after events = .started job ∨ after events = .watched job) :
    ∃ before checks, events = before ++ .start job :: checks ∧
      ∀ event ∈ checks, event = .check := by
  induction events using List.reverseRecOn with
  | nil => simp [after] at running
  | append_singleton events event induction =>
      rw [after_snoc] at running
      cases event with
      | start other =>
          simp only [step, started.injEq, reduceCtorEq, or_false] at running
          exact ⟨events, [], by rw [running], by simp⟩
      | stop => simp [step] at running
      | check =>
          have before : after events = .started job ∨
              after events = .watched job := by
            cases watch : after events with
            | quiet => simp [watch, step] at running
            | started other => simpa [watch, step] using running
            | watched other => simpa [watch, step] using running
          obtain ⟨before, checks, whole, only⟩ := induction before
          refine ⟨before, checks ++ [.check], by simp [whole], ?_⟩
          intro event member
          rcases List.mem_append.mp member with earlier | last
          · exact only event earlier
          · exact List.mem_singleton.mp last

/-- A check finds a job stalled when it has been started, nothing has happened
to it since, and it has been checked before. -/
theorem watched_iff {events : List (Event Job)} {job : Job} :
    after events = .watched job ↔
      ∃ before checks, events = before ++ .start job :: checks ∧
        checks ≠ [] ∧ ∀ event ∈ checks, event = .check := by
  constructor
  · intro watched
    obtain ⟨before, checks, whole, only⟩ := running_cases (Or.inr watched)
    refine ⟨before, checks, whole, ?_, only⟩
    intro none
    rw [whole, after_start before job only, if_pos none] at watched
    cases watched
  · rintro ⟨before, checks, whole, some, only⟩
    rw [whole, after_start before job only, if_neg some]

end Watch

/-- What a watchdog sees that knows less of a job. -/
def Event.map {View : Type*} (view : Job → View) : Event Job → Event View
  | .start job => .start (view job)
  | .stop => .stop
  | .check => .check

theorem verdict_map {View : Type*} (view : Job → View)
    (events : List (Event Job)) :
    (Watch.after (events.map (Event.map view))).verdict =
      (Watch.after events).verdict.map view := by
  have viewed : Watch.after (events.map (Event.map view)) =
      match Watch.after events with
      | .quiet => .quiet
      | .started job => .started (view job)
      | .watched job => .watched (view job) := by
    induction events using List.reverseRecOn with
    | nil => rfl
    | append_singleton events event induction =>
        rw [List.map_append, List.map_singleton, Watch.after_snoc,
          Watch.after_snoc, induction]
        cases event with
        | start job => cases Watch.after events <;> rfl
        | stop => cases Watch.after events <;> rfl
        | check => cases Watch.after events <;> rfl
  rw [viewed]
  cases Watch.after events <;> rfl

/-- Two counters and the running job encode a watch. -/
structure Encodes (running : Option Job) (version checked : Nat)
    (watch : Watch Job) : Prop where
  behind : checked ≤ version
  quiet : running = none → watch = .quiet
  fresh : ∀ job, running = some job → checked ≠ version →
    watch = .started job
  seen : ∀ job, running = some job → checked = version →
    watch = .watched job

namespace Encodes

variable {running : Option Job} {version checked : Nat} {watch : Watch Job}

theorem initially : Encodes (none : Option Job) 0 0 .quiet where
  behind := Nat.le_refl 0
  quiet := fun _ => rfl
  fresh := nofun
  seen := nofun

/-- A start advances the first counter only. -/
theorem start (encodes : Encodes running version checked watch) (job : Job) :
    Encodes (some job) (version + 1) checked (watch.step (.start job)) := by
  have behind := encodes.behind
  refine ⟨by omega, nofun, ?_, ?_⟩
  · intro other same _
    cases same
    rfl
  · intro other _ same
    omega

/-- After a stop the second counter does not matter as long as it is not
ahead. -/
theorem stop (_ : Encodes running version checked watch) {copied : Nat}
    (behind : copied ≤ version + 1) :
    Encodes none (version + 1) copied (watch.step .stop) where
  behind := behind
  quiet := fun _ => rfl
  fresh := nofun
  seen := nofun

/-- A check copies the first counter. -/
theorem check (encodes : Encodes running version checked watch) :
    Encodes running version version (watch.step .check) := by
  refine ⟨Nat.le_refl _, ?_, ?_, ?_⟩
  · intro none
    rw [encodes.quiet none]
    rfl
  · intro job _ different
    exact absurd rfl different
  · intro job some _
    by_cases same : checked = version
    · rw [encodes.seen job some same]
      rfl
    · rw [encodes.fresh job some same]
      rfl

/-- What a check finds. -/
theorem verdict (encodes : Encodes running version checked watch) :
    watch.verdict = if checked = version then running else none := by
  cases running with
  | none =>
      rw [encodes.quiet rfl]
      split <;> rfl
  | some job =>
      split
      · rename_i same
        rw [encodes.seen job rfl same]
        rfl
      · rename_i different
        rw [encodes.fresh job rfl different]
        rfl

end Encodes

end Watchdog
