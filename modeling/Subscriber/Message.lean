import Subscriber.Bytes

/-! Messages received from the server. -/

namespace Subscriber

/-- A message reaches a subscriber by the channel it was published to, or by a pattern that the
channel matches. -/
inductive Message where
  | channel (channel payload : Bytes)
  | pattern (pattern channel payload : Bytes)
deriving DecidableEq

namespace Message

/-- The two ways of subscribing: to a channel by name, or to all channels that match a pattern. -/
inductive Kind where
  | channel
  | pattern
deriving DecidableEq

def kind : Message → Kind
  | .channel .. => .channel
  | .pattern .. => .pattern

def channelName : Message → Bytes
  | .channel name _ => name
  | .pattern _ name _ => name

def payload : Message → Bytes
  | .channel _ payload => payload
  | .pattern _ _ payload => payload

def pattern? : Message → Option Bytes
  | .channel .. => none
  | .pattern glob _ _ => some glob

def isPattern (message : Message) : Bool := message.kind == .pattern

end Message

end Subscriber
