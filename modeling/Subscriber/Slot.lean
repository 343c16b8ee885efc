import Subscriber.Bytes

/-! Cluster slots. A key belongs to one of 16384 slots, chosen by a checksum of the key or, when
the key carries a hash tag, of the tag alone. -/

namespace Subscriber.Slot

def count : Nat := 16384

/-- One step of the register: multiply by x and reduce by x^16 + x^12 + x^5 + 1. -/
def shift (register : BitVec 16) : BitVec 16 :=
  if register.msb then (register <<< 1) ^^^ 0x1021#16 else register <<< 1

/-- A byte enters at the high end, most significant bit first. -/
def absorb (register : BitVec 16) (byte : UInt8) : BitVec 16 :=
  Nat.repeat shift 8 (register ^^^ (BitVec.ofNat 16 byte.toNat <<< 8))

/-- The 16-bit cyclic redundancy check without reflection, from 0 and without a final mask. -/
def checksum (bytes : Bytes) : BitVec 16 := bytes.foldl absorb 0#16

def openBrace : UInt8 := 123
def closeBrace : UInt8 := 125

/-- The part of a key that is hashed: what stands between the first opening brace and the next
closing brace, if both are there and something stands between them, and else the whole key. -/
def effectiveKey (key : Bytes) : Bytes :=
  match key.dropWhile (· != openBrace) with
  | [] => key
  | _ :: inside =>
    let tag := inside.takeWhile (· != closeBrace)
    if inside.contains closeBrace && !tag.isEmpty then tag else key

def ofKey (key : Bytes) : Nat := (checksum (effectiveKey key)).toNat % count

/-- Whether all keys live in one slot, as a command on several keys requires. -/
def shared : List Bytes → Bool
  | [] => true
  | key :: keys => keys.all fun other => ofKey other == ofKey key

end Subscriber.Slot
