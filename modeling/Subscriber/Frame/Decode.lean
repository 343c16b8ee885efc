import Subscriber.Frame.Encode
import Subscriber.Error

/-! Reading frames from a buffer. A frame is taken from the buffer whole or not at all, so one that
has arrived in part is read again, from its first byte, when more has arrived. -/

namespace Subscriber

/-- What reading from a buffer comes to. `complete` carries the bytes behind what was read. -/
inductive Reading (α : Type) where
  | incomplete
  | malformed (cause : DecodeError)
  | complete (value : α) (rest : Bytes)
deriving DecidableEq

namespace Frame

/-- The size limit of a connection: 512 MiB. -/
def defaultLimit : Nat := 512 * 1024 * 1024

/-- What a frame's first line, and a payload's second, determine: the frame itself, or the number
of items of an array. -/
inductive Head where
  | whole (frame : Frame)
  | items (count : Nat)
deriving DecidableEq

/-- A payload and its line end. Until the byte behind the place of the line end has arrived the
payload is incomplete, even if the line end already cannot be right. -/
def payload (length : Nat) (bytes : Bytes) : Reading Head :=
  match bytes.splitAt length with
  | (content, first :: second :: rest) =>
    if first = 13 ∧ second = 10 then .complete (.whole (.bulk (some content))) rest
    else .malformed .bulkUnterminated
  | _ => .incomplete

/-- A negative length of either sort means null. An array may have one item for every 16 bytes of
the limit. -/
def head (limit : Nat) : Bytes → Reading Head
  | [] => .incomplete
  | tag :: bytes =>
    match Bytes.splitLine [] bytes with
    | none => .incomplete
    | some (text, rest) =>
      if tag = simpleTag then .complete (.whole (.simple text)) rest
      else if tag = errorTag then .complete (.whole (.error text)) rest
      else if tag = integerTag then
        match Decimal.int64? text with
        | none => .malformed .invalidInteger
        | some value => .complete (.whole (.integer value)) rest
      else if tag = bulkTag then
        match Decimal.int64? text with
        | none => .malformed .invalidInteger
        | some length =>
          if length.toInt < 0 then .complete (.whole (.bulk none)) rest
          else if limit < length.toInt.toNat then .malformed .bulkTooLong
          else payload length.toInt.toNat rest
      else if tag = arrayTag then
        match Decimal.int64? text with
        | none => .malformed .invalidInteger
        | some count =>
          if count.toInt < 0 then .complete (.whole .null) rest
          else if limit / 16 < count.toInt.toNat then .malformed .arrayTooLong
          else .complete (.items count.toInt.toNat) rest
      else .malformed (.unknownTag tag)

theorem payload_shorter {length : Nat} {bytes rest : Bytes} {value : Head}
    (read : payload length bytes = .complete value rest) : rest.length < bytes.length := by
  unfold payload at read
  split at read
  next content first second tail split =>
    split at read
    · have parts := congrArg Prod.snd split
      simp only [List.splitAt_eq] at parts
      have size := congrArg List.length parts
      simp only [List.length_drop, List.length_cons] at size
      cases read
      omega
    · cases read
  next => cases read

theorem head_shorter {limit : Nat} {bytes rest : Bytes} {value : Head}
    (read : head limit bytes = .complete value rest) : rest.length < bytes.length := by
  unfold head at read
  split at read
  · cases read
  next tag tail =>
    split at read
    · cases read
    next text behind split =>
      have line := Bytes.splitLine_shorter split
      simp only [List.length_cons]
      repeat' split at read
      all_goals first
        | cases read; omega
        | cases read
        | have := payload_shorter read; omega

/-- An array whose items have arrived only in part: how many are missing after the one being
read, and those already read, last one first. -/
structure Opening where
  missing : Nat
  read : List Frame := []

/-- A frame takes its place in the innermost open array, which may complete that array and so on
outwards. The result is the outermost frame or the arrays still open. -/
def settle : List Opening → Frame → Frame ⊕ List Opening
  | [], frame => .inl frame
  | { missing := 0, read } :: outer, frame => settle outer (.array (frame :: read).reverse)
  | { missing := missing + 1, read } :: outer, frame =>
    .inr ({ missing, read := frame :: read } :: outer)

/-- Reads on inside the given open arrays until the outermost one is complete. -/
def readInside (limit : Nat) (outer : List Opening) (bytes : Bytes) : Reading Frame :=
  match _found : head limit bytes with
  | .incomplete => .incomplete
  | .malformed cause => .malformed cause
  | .complete (.items (missing + 1)) rest => readInside limit ({ missing } :: outer) rest
  | .complete (.items 0) rest =>
    match settle outer (.array []) with
    | .inl frame => .complete frame rest
    | .inr outer => readInside limit outer rest
  | .complete (.whole frame) rest =>
    match settle outer frame with
    | .inl frame => .complete frame rest
    | .inr outer => readInside limit outer rest
termination_by bytes.length
decreasing_by all_goals exact head_shorter _found

theorem readInside_shorter {limit : Nat} {outer : List Opening} {bytes rest : Bytes} {frame : Frame}
    (read : readInside limit outer bytes = .complete frame rest) : rest.length < bytes.length := by
  fun_induction readInside limit outer bytes with
  | case1 => cases read
  | case2 => cases read
  | case3 _ _ _ _ found ih => have := ih read; have := head_shorter found; omega
  | case4 _ _ _ found => cases read; exact head_shorter found
  | case5 _ _ _ found _ _ ih => have := ih read; have := head_shorter found; omega
  | case6 _ _ _ _ found => cases read; exact head_shorter found
  | case7 _ _ _ _ found _ _ ih => have := ih read; have := head_shorter found; omega

/-- The first frame of a buffer. A buffer longer than the limit must hold one. -/
def decode (limit : Nat) (buffer : Bytes) : Reading Frame :=
  match readInside limit [] buffer with
  | .incomplete => if limit < buffer.length then .malformed .bufferTooLong else .incomplete
  | reading => reading

theorem decode_shorter {limit : Nat} {buffer rest : Bytes} {frame : Frame}
    (read : decode limit buffer = .complete frame rest) : rest.length < buffer.length := by
  unfold decode at read
  split at read
  · split at read <;> cases read
  · exact readInside_shorter read

end Frame

/-- A buffer to which bytes are appended as they arrive and from which frames are taken. -/
structure Decoder where
  limit : Nat := Frame.defaultLimit
  buffer : Bytes := []

namespace Decoder

inductive Answer where
  | incomplete
  | failed (cause : DecodeError)
  | frame (frame : Frame)
deriving DecidableEq

def append (decoder : Decoder) (bytes : Bytes) : Decoder :=
  { decoder with buffer := decoder.buffer ++ bytes }

/-- Takes a frame from the buffer. Any other answer leaves the buffer as it was. -/
def next (decoder : Decoder) : Answer × Decoder :=
  match Frame.decode decoder.limit decoder.buffer with
  | .incomplete => (.incomplete, decoder)
  | .malformed cause => (.failed cause, decoder)
  | .complete frame rest => (.frame frame, { decoder with buffer := rest })

theorem next_shorter {decoder after : Decoder} {frame : Frame}
    (taken : decoder.next = (.frame frame, after)) :
    after.buffer.length < decoder.buffer.length := by
  unfold next at taken
  split at taken
  next => cases taken
  next => cases taken
  next read => cases taken; exact Frame.decode_shorter read

/-- Frames taken one after the other, the answer that ended the series, and what is left. -/
structure Drained where
  frames : List Frame
  stop : Option DecodeError
  rest : Decoder

/-- Takes frames until there is none. `taken` holds those already taken, last one first. -/
def drainOnto (taken : List Frame) (decoder : Decoder) : Drained :=
  match _next : decoder.next with
  | (.incomplete, rest) => { frames := taken.reverse, stop := none, rest }
  | (.failed cause, rest) => { frames := taken.reverse, stop := some cause, rest }
  | (.frame frame, rest) => drainOnto (frame :: taken) rest
termination_by decoder.buffer.length
decreasing_by exact next_shorter _next

def drain (decoder : Decoder) : Drained := decoder.drainOnto []

/-- Appends the pieces one by one and drains after each, up to the first failure. -/
def drainPieces (decoder : Decoder) : List Bytes → List Drained
  | [] => []
  | piece :: pieces =>
    let drained := (decoder.append piece).drain
    match drained.stop with
    | some _ => [drained]
    | none => drained :: drainPieces drained.rest pieces

end Decoder

end Subscriber
