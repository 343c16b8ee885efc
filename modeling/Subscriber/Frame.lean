import Subscriber.Text.Lossy
import Subscriber.Text.Quoted

/-! Frames: the values of the wire format that occur on a publish/subscribe connection. -/

namespace Subscriber

inductive Frame where
  | simple (text : Bytes)
  | error (text : Bytes)
  | integer (value : Int64)
  /-- A payload of known length, or the null payload. -/
  | bulk (payload : Option Bytes)
  | array (items : List Frame)
  | null

namespace Frame

mutual

def decEq : (a b : Frame) → Decidable (a = b)
  | .simple a, .simple b => decidable_of_iff (a = b) (by simp)
  | .error a, .error b => decidable_of_iff (a = b) (by simp)
  | .integer a, .integer b => decidable_of_iff (a = b) (by simp)
  | .bulk a, .bulk b => decidable_of_iff (a = b) (by simp)
  | .array a, .array b =>
    match decEqItems a b with
    | isTrue same => isTrue (same ▸ rfl)
    | isFalse different => isFalse fun same => different (Frame.array.inj same)
  | .null, .null => isTrue rfl
  | .simple _, .error _ | .simple _, .integer _ | .simple _, .bulk _ | .simple _, .array _
  | .simple _, .null | .error _, .simple _ | .error _, .integer _ | .error _, .bulk _
  | .error _, .array _ | .error _, .null | .integer _, .simple _ | .integer _, .error _
  | .integer _, .bulk _ | .integer _, .array _ | .integer _, .null | .bulk _, .simple _
  | .bulk _, .error _ | .bulk _, .integer _ | .bulk _, .array _ | .bulk _, .null
  | .array _, .simple _ | .array _, .error _ | .array _, .integer _ | .array _, .bulk _
  | .array _, .null | .null, .simple _ | .null, .error _ | .null, .integer _ | .null, .bulk _
  | .null, .array _ => isFalse (by simp)

def decEqItems : (a b : List Frame) → Decidable (a = b)
  | [], [] => isTrue rfl
  | [], _ :: _ => isFalse (by simp)
  | _ :: _, [] => isFalse (by simp)
  | a :: as, b :: bs =>
    match decEq a b, decEqItems as bs with
    | isTrue head, isTrue tail => isTrue (head ▸ tail ▸ rfl)
    | isFalse head, _ => isFalse fun same => head (List.cons.inj same).1
    | _, isFalse tail => isFalse fun same => tail (List.cons.inj same).2

end

instance : DecidableEq Frame := decEq

def content? : Frame → Option Bytes
  | .simple text => some text
  | .bulk payload => payload
  | _ => none

def integer? : Frame → Option Int64
  | .integer value => some value
  | _ => none

def errorText? : Frame → Option String
  | .error text => some (Text.lossy text)
  | _ => none

def byteList (bytes : Bytes) : String := Text.list (bytes.map fun byte => toString byte.toNat)

mutual

/-- The form in which the log shows a frame: lines as lists of byte values, payloads quoted. -/
def describe : Frame → String
  | .simple text => "SimpleString(" ++ byteList text ++ ")"
  | .error text => "Error(" ++ byteList text ++ ")"
  | .integer value => "Integer(" ++ toString value.toInt ++ ")"
  | .bulk none => "BulkString(None)"
  | .bulk (some payload) => "BulkString(Some(" ++ Text.quoteBytes payload ++ "))"
  | .array items => "Array(" ++ Text.list (describeItems items) ++ ")"
  | .null => "Null"

def describeItems : List Frame → List String
  | [] => []
  | item :: items => describe item :: describeItems items

end

end Frame

end Subscriber
