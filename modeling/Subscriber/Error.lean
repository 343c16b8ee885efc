import Subscriber.Text.Lossy

/-! What can go wrong, as causes, and the text of each cause. `Error` is what callers of a session
see; `Fault` is what ends or disturbs a publish/subscribe connection and can be handed to everyone
who waits on it. -/

namespace Subscriber

inductive IoKind where
  | brokenPipe
  | connectionReset
  | connectionRefused
  | connectionAborted
  | timedOut
  | unexpectedEof
  | writeZero
  | networkUnreachable
  | other
deriving DecidableEq

structure IoError where
  kind : IoKind
  text : String
deriving DecidableEq

/-- A write call that takes no byte of a text that is not empty. -/
def IoError.writeZero : IoError := { kind := .writeZero, text := "write zero" }

def IoError.networkUnreachable : IoError :=
  { kind := .networkUnreachable, text := "Network is unreachable (os error 101)" }

/-- Why bytes are not the written form of a frame. -/
inductive DecodeError where
  | invalidInteger
  | bulkTooLong
  | bulkUnterminated
  | arrayTooLong
  | unknownTag (tag : UInt8)
  | bufferTooLong
  /-- A cause named by whoever reports it. -/
  | described (text : String)
deriving DecidableEq

def DecodeError.message : DecodeError → String
  | .invalidInteger => "invalid integer"
  | .bulkTooLong => "bulk string length exceeds maximum frame size"
  | .bulkUnterminated => "bulk string missing terminator"
  | .arrayTooLong => "array length exceeds reasonable maximum"
  | .unknownTag tag => "unknown frame type: " ++ (Char.ofNat tag.toNat).toString
  | .bufferTooLong => "buffer size exceeded maximum frame size"
  | .described text => text

inductive Error where
  | io (cause : IoError)
  | protocol (text : String)
  | server (text : String)
  | auth
  | invalidArgument (text : String)
  | decode (cause : DecodeError)
  | connectionClosed
  | cancelled
deriving DecidableEq

def Error.message : Error → String
  | .io cause => "IO error: " ++ cause.text
  | .protocol text => "protocol error: " ++ text
  | .server text => "server error: " ++ text
  | .auth => "authentication failed"
  | .invalidArgument text => "invalid argument: " ++ text
  | .decode cause => "decode error: " ++ cause.message
  | .connectionClosed => "connection closed"
  | .cancelled => "subscription cancelled"

inductive Fault where
  | closed
  | io (cause : IoError)
  | protocol (text : String)
  | server (text : String)
deriving DecidableEq

namespace Fault

def message : Fault → String
  | .closed => "connection closed"
  | .io cause => "IO error: " ++ cause.text
  | .protocol text => "protocol error: " ++ text
  | .server text => "server error: " ++ text

/-- An error that is no fault of its own kind counts as a breach of the protocol. -/
def ofError : Error → Fault
  | .connectionClosed => .closed
  | .io cause => .io cause
  | .server text => .server text
  | .protocol text => .protocol text
  | error => .protocol error.message

def toError : Fault → Error
  | .closed => .connectionClosed
  | .io cause => .io cause
  | .protocol text => .protocol text
  | .server text => .server text

end Fault

/-- Why a stream of messages ended before its time. -/
inductive Interruption where
  | cancelled
  | upstream (cause : Error)
deriving DecidableEq

def Interruption.message : Interruption → String
  | .cancelled => "subscription cancelled"
  | .upstream cause => "upstream failure: " ++ cause.message

/-- A failure that a loopback connection has been told to report. -/
structure Refusal where
  text : String
deriving DecidableEq

def Refusal.message (refusal : Refusal) : String := "mock failure: " ++ refusal.text

/-- To a session, a refusal is the server's. -/
def Refusal.toError (refusal : Refusal) : Error := .server refusal.text

end Subscriber
