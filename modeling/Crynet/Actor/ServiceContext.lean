import Crynet.Actor.Message

/-!
# Service contexts and their lifecycle

Every lifecycle method is a guarded transition of the five-valued state; the
two that report success return it beside the new context.
-/

namespace Crynet

inductive ServiceState where
  | created
  | initialized
  | running
  | stopped
  | released
  deriving DecidableEq, Repr

structure ServiceContext where
  handle : ServiceHandle := 0
  serviceName : Text := []
  state : ServiceState := .created
  deriving DecidableEq, Repr

namespace ServiceContext

def isRunning (context : ServiceContext) : Bool :=
  context.state == .running

/-- `ServiceContext::initialize`: a one-way transition, valid only from
`created`. -/
def initializeContext (context : ServiceContext) : Bool × ServiceContext :=
  if context.state ≠ .created then
    (false, context)
  else
    (true, { context with state := .initialized })

/-- Valid only after initialization has completed. -/
def start (context : ServiceContext) : Bool × ServiceContext :=
  if context.state ≠ .initialized then
    (false, context)
  else
    (true, { context with state := .running })

/-- Stopping is tolerant of both initialized and running services. -/
def stop (context : ServiceContext) : ServiceContext :=
  if context.state = .running ∨ context.state = .initialized then
    { context with state := .stopped }
  else
    context

/-- Release is terminal. -/
def release (context : ServiceContext) : ServiceContext :=
  { context with state := .released }

@[simp] theorem isRunning_iff (context : ServiceContext) :
    context.isRunning = true ↔ context.state = .running := by
  simp [isRunning]

@[simp] theorem initializeContext_handle (context : ServiceContext) :
    context.initializeContext.2.handle = context.handle := by
  unfold initializeContext
  split <;> rfl

@[simp] theorem start_handle (context : ServiceContext) :
    context.start.2.handle = context.handle := by
  unfold start
  split <;> rfl

@[simp] theorem stop_handle (context : ServiceContext) :
    context.stop.handle = context.handle := by
  unfold stop
  split <;> rfl

@[simp] theorem release_handle (context : ServiceContext) :
    context.release.handle = context.handle := rfl

@[simp] theorem initializeContext_serviceName (context : ServiceContext) :
    context.initializeContext.2.serviceName = context.serviceName := by
  unfold initializeContext
  split <;> rfl

@[simp] theorem start_serviceName (context : ServiceContext) :
    context.start.2.serviceName = context.serviceName := by
  unfold start
  split <;> rfl

@[simp] theorem stop_serviceName (context : ServiceContext) :
    context.stop.serviceName = context.serviceName := by
  unfold stop
  split <;> rfl

@[simp] theorem release_serviceName (context : ServiceContext) :
    context.release.serviceName = context.serviceName := rfl

theorem stop_not_running (context : ServiceContext) :
    context.stop.state ≠ .running := by
  unfold stop
  split
  · simp
  · rename_i other
    intro running
    exact other (Or.inl running)

end ServiceContext

end Crynet
