import Subscriber.Command

/-! Notices: what connections and sessions report to the log. -/

namespace Subscriber

inductive Notice where
  | malformedMessage (kind : Message.Kind)
  | pong
  | unknownPush (word : Bytes)
  | unnamedPush
  | unexpectedFrame (frame : Frame)
  | unsolicitedAcknowledgement (verb : Verb)
  | acknowledgementOutOfOrder (expected received : Verb)
  | unmatchedRefusal (fault : Fault)
  | connectionFailed (fault : Fault)
  | requestFailed (verb : Verb) (error : Error)
  | deliveryActivated (generation : Nat)
  | deliveryReleased (generation : Nat)
  | deliveryFailed (generation consumers : Nat)
  | deliveryCompleted (generation : Nat)
  | sessionCancelled

namespace Notice

inductive Level where
  | debug
  | warn
  | error

def Level.name : Level → String
  | .debug => "DEBUG"
  | .warn => "WARN"
  | .error => "ERROR"

def level : Notice → Level
  | .connectionFailed _ => .error
  | .malformedMessage _ | .unknownPush _ | .unnamedPush | .unexpectedFrame _
  | .acknowledgementOutOfOrder _ _ | .unmatchedRefusal _ | .requestFailed _ _
  | .deliveryFailed _ _ => .warn
  | .pong | .unsolicitedAcknowledgement _ | .deliveryActivated _ | .deliveryReleased _
  | .deliveryCompleted _ | .sessionCancelled => .debug

/-- The event and its fields, in the order in which they are shown. -/
def event : Notice → String × List (String × String)
  | .malformedMessage .channel => ("malformed message push", [])
  | .malformedMessage .pattern => ("malformed pmessage push", [])
  | .pong => ("pong", [])
  | .unknownPush word => ("ignoring unknown push", [("kind", Text.quoteBytes word)])
  | .unnamedPush => ("ignoring push without a kind", [])
  | .unexpectedFrame frame =>
    ("ignoring unexpected frame on pub/sub connection", [("frame", frame.describe)])
  | .unsolicitedAcknowledgement verb => ("unsolicited acknowledgement", [("kind", verb.title)])
  | .acknowledgementOutOfOrder expected received =>
    ("out-of-order acknowledgement", [("expected", expected.title), ("got", received.title)])
  | .unmatchedRefusal fault => ("server error with no pending request", [("error", fault.message)])
  | .connectionFailed fault => ("pub/sub connection failed", [("error", fault.message)])
  | .requestFailed verb error =>
    ("pub/sub request failed", [("command", "\"" ++ verb.name ++ "\""), ("error", error.message)])
  | .deliveryActivated generation =>
    ("activated message delivery", [("generation", toString generation)])
  | .deliveryReleased generation =>
    ("last consumer detached, released upstream", [("generation", toString generation)])
  | .deliveryFailed generation consumers =>
    ("upstream failed, terminating delivery",
      [("generation", toString generation), ("consumers", toString consumers)])
  | .deliveryCompleted generation => ("upstream completed", [("generation", toString generation)])
  | .sessionCancelled => ("subscription cancelled", [])

def line (notice : Notice) : String :=
  let (text, fields) := notice.event
  notice.level.name ++ " " ++ text ++
    String.join (fields.map fun (name, value) => " " ++ name ++ "=" ++ value)

end Notice

end Subscriber
