import Subscriber.Command

/-! What a frame from the server means on a publish/subscribe connection. -/

namespace Subscriber

inductive Push where
  | message (message : Message)
  /-- Looks like a message of the kind, but its parts are not byte strings. -/
  | malformed (kind : Message.Kind)
  | pong
  | acknowledgement (verb : Verb)
  | refusal (text : String)
  | unknown (word : Bytes)
  | unnamed
  | unexpected (frame : Frame)

namespace Push

def messageWord : Bytes := Bytes.ofText "message"
def patternMessageWord : Bytes := Bytes.ofText "pmessage"
def pongWord : Bytes := Bytes.ofText "pong"

/-- A push is known by its first word, in any case, and a message also by the number of its parts:
with another number of parts the word means nothing. -/
def ofWord (word : Bytes) (parts : List Frame) : Push :=
  match parts with
  | [channel, payload] =>
    if word.lower = messageWord then
      match channel.content?, payload.content? with
      | some channel, some payload => .message (.channel channel payload)
      | _, _ => .malformed .channel
    else plain
  | [pattern, channel, payload] =>
    if word.lower = patternMessageWord then
      match pattern.content?, channel.content?, payload.content? with
      | some pattern, some channel, some payload => .message (.pattern pattern channel payload)
      | _, _, _ => .malformed .pattern
    else plain
  | _ => plain
where
  plain : Push :=
    if word.lower = pongWord then .pong
    else match Verb.ofAcknowledgement? word.lower with
      | some verb => .acknowledgement verb
      | none => .unknown word

def ofFrame : Frame → Push
  | .array [] => .unnamed
  | .array (first :: parts) =>
    match first.content? with
    | some word => ofWord word parts
    | none => .unnamed
  | .error text => .refusal (Text.lossy text)
  | frame => .unexpected frame

end Push

end Subscriber
