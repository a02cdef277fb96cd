/-!
# Runtime messages

Handles, session identifiers and messages of the actor runtime.  A
`std::string` is the list of its bytes, so the byte payload of a message built
from text is that text.
-/

namespace Crynet

/-- Identifies a service instance; zero is never allocated. -/
abbrev ServiceHandle := UInt64

/-- Correlates a request with its response. -/
abbrev SessionId := UInt64

/-- The bytes of a `std::string`. -/
abbrev Text := List UInt8

inductive MessageType where
  | invalid
  | request
  | response
  | event
  | timer
  | system
  deriving DecidableEq, Repr

/-- `message_type_name`. -/
def MessageType.name : MessageType → String
  | .invalid => "invalid"
  | .request => "request"
  | .response => "response"
  | .event => "event"
  | .timer => "timer"
  | .system => "system"

structure Message where
  type : MessageType := .invalid
  sourceHandle : ServiceHandle := 0
  targetHandle : ServiceHandle := 0
  sessionId : SessionId := 0
  payload : List UInt8 := []
  deriving DecidableEq, Repr

/-- Build a message whose payload is the byte copy of a text. -/
def Message.fromText (type : MessageType)
    (sourceHandle targetHandle : ServiceHandle) (sessionId : SessionId)
    (textPayload : Text) : Message :=
  { type := type
    sourceHandle := sourceHandle
    targetHandle := targetHandle
    sessionId := sessionId
    payload := textPayload }

@[simp] theorem Message.fromText_targetHandle
    (type : MessageType) (sourceHandle targetHandle : ServiceHandle)
    (sessionId : SessionId) (textPayload : Text) :
    (Message.fromText type sourceHandle targetHandle sessionId
      textPayload).targetHandle = targetHandle := rfl

end Crynet
