import Subscriber.Frame
import Subscriber.Decimal

/-! The written form of frames. Both null forms are written as the null payload. -/

namespace Subscriber

namespace Frame

def line (tag : UInt8) (text : Bytes) : Bytes := tag :: (text ++ Bytes.lineEnd)

def simpleTag : UInt8 := 43
def errorTag : UInt8 := 45
def integerTag : UInt8 := 58
def bulkTag : UInt8 := 36
def arrayTag : UInt8 := 42

mutual

def encode : Frame → Bytes
  | .simple text => line simpleTag text
  | .error text => line errorTag text
  | .integer value => line integerTag (Decimal.ofInt value.toInt)
  | .bulk none => line bulkTag (Decimal.ofInt (-1))
  | .bulk (some payload) =>
    line bulkTag (Decimal.ofNat payload.length) ++ (payload ++ Bytes.lineEnd)
  | .array items => line arrayTag (Decimal.ofNat items.length) ++ encodeItems items
  | .null => line bulkTag (Decimal.ofInt (-1))

def encodeItems : List Frame → Bytes
  | [] => []
  | item :: items => encode item ++ encodeItems items

end

end Frame

/-- Frames are written into a buffer, which is then taken as a whole. -/
structure Encoder where
  buffer : Bytes := []

namespace Encoder

def encode (encoder : Encoder) (frame : Frame) : Encoder :=
  { buffer := encoder.buffer ++ frame.encode }

def take (encoder : Encoder) : Bytes × Encoder := (encoder.buffer, {})

theorem buffer_new : ({} : Encoder).buffer = [] := rfl

theorem buffer_take (encoder : Encoder) : encoder.take.2.buffer = [] := rfl

end Encoder

end Subscriber
