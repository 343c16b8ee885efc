import Subscriber.Error
import Subscriber.Frame.Encode
import Subscriber.Message

/-! Commands sent to the server: a name and its arguments, written as an array of payloads. -/

namespace Subscriber

structure Command where
  name : Bytes
  arguments : List Bytes := []
deriving DecidableEq

namespace Command

def ofName (name : String) (arguments : List Bytes := []) : Command :=
  { name := Bytes.ofText name, arguments }

def addArguments (command : Command) (arguments : List Bytes) : Command :=
  { command with arguments := command.arguments ++ arguments }

def words (command : Command) : List Bytes := command.name :: command.arguments

def frame (command : Command) : Frame := .array (command.words.map fun word => .bulk (some word))

def describe (command : Command) : String :=
  "Cmd \x7b args: " ++ Text.list (command.words.map Text.quoteBytes) ++ " \x7d"

def publish (channel payload : Bytes) : Command := ofName "PUBLISH" [channel, payload]

def ping : Command := ofName "PING"

def auth (username : Option Bytes) (password : Bytes) : Command :=
  ofName "AUTH" (username.toList ++ [password])

def select (database : UInt8) : Command := ofName "SELECT" [Decimal.ofNat database.toNat]

def setName (name : Bytes) : Command := ofName "CLIENT" [Bytes.ofText "SETNAME", name]

end Command

/-- The four requests of a publish/subscribe connection. -/
inductive Verb where
  | subscribe
  | unsubscribe
  | psubscribe
  | punsubscribe
deriving DecidableEq

namespace Verb

def all : List Verb := [.subscribe, .unsubscribe, .psubscribe, .punsubscribe]

def name : Verb → String
  | .subscribe => "SUBSCRIBE"
  | .unsubscribe => "UNSUBSCRIBE"
  | .psubscribe => "PSUBSCRIBE"
  | .punsubscribe => "PUNSUBSCRIBE"

def title : Verb → String
  | .subscribe => "Subscribe"
  | .unsubscribe => "Unsubscribe"
  | .psubscribe => "PSubscribe"
  | .punsubscribe => "PUnsubscribe"

/-- The word by which the server acknowledges the verb. -/
def acknowledgement (verb : Verb) : Bytes := Bytes.lower (Bytes.ofText verb.name)

def ofAcknowledgement? (word : Bytes) : Option Verb := all.find? fun verb => verb.acknowledgement == word

def command (verb : Verb) (targets : List Bytes) : Command := Command.ofName verb.name targets

def adding : Message.Kind → Verb
  | .channel => .subscribe
  | .pattern => .psubscribe

def removing : Message.Kind → Verb
  | .channel => .unsubscribe
  | .pattern => .punsubscribe

end Verb

/-- A reply is any frame but an error reply, which is the server's refusal. -/
def Frame.reply : Frame → Except Error Frame
  | .error text => .error (.server (Text.lossy text))
  | frame => .ok frame

end Subscriber
