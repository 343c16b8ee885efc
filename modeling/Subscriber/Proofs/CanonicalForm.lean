import Subscriber.Proofs.FrameSizes
import Subscriber.Proofs.Grammar

/-! Frames that were read can be written again. Whatever spelling the decoder accepted, its frames keep to the limits under
which they were read, so what is written of them is read back in full; only null arrays come back as null payloads, which
are written alike. -/

namespace Subscriber

namespace Frame

theorem Single.lined {limit : Nat} {frame : Frame} {text : Bytes} (form : Single limit frame text) : frame.Lined := by
  cases form with
  | simple oneLine => exact oneLine
  | error oneLine => exact oneLine
  | _ => trivial

theorem announced_le {n : Int64} {size : Nat} (counts : n.toInt = size) : size ≤ longest := by
  have most : n.toInt ≤ Int64.maxValue.toInt := by simpa using n.toInt_le
  rw [counts] at most
  exact (Int.le_toNat (by decide)).mpr most

theorem Single.fits {limit : Nat} {frame : Frame} {text : Bytes} (form : Single limit frame text) : frame.Fits limit := by
  cases form with
  | payload reads counts small => exact ⟨small, announced_le counts⟩
  | _ => trivial

mutual

private theorem Written.lined {limit : Nat} {frame : Frame} {text : Bytes} (written : Written limit frame text) :
    frame.Lined := by
  match written with
  | .single form => exact form.lined
  | .array _ inside => exact inside.lined

theorem WrittenItems.lined {limit : Nat} {items : List Frame} {text : Bytes} (written : WrittenItems limit items text) :
    LinedItems items := by
  match written with
  | .nil => trivial
  | .cons first later => exact ⟨first.lined, later.lined⟩

end

mutual

private theorem Written.fits {limit : Nat} {frame : Frame} {text : Bytes} (written : Written limit frame text) :
    frame.Fits limit := by
  match written with
  | .single form => exact form.fits
  | .array (.line reads counts few) inside => exact ⟨few, announced_le counts, inside.fits⟩

theorem WrittenItems.fits {limit : Nat} {items : List Frame} {text : Bytes} (written : WrittenItems limit items text) :
    FitsItems limit items := by
  match written with
  | .nil => trivial
  | .cons first later => exact ⟨first.fits, later.fits⟩

end

private theorem length_asReadItems (items : List Frame) : (asReadItems items).length = items.length := by
  induction items with
  | nil => rfl
  | cons item items ih => rw [asReadItems, List.length_cons, ih, List.length_cons]

mutual

/-- What is read back is written as before. -/
theorem encode_asRead (frame : Frame) : frame.asRead.encode = frame.encode := by
  match frame with
  | .simple _ | .error _ | .integer _ | .bulk none | .bulk (some _) | .null => rfl
  | .array items => rw [asRead, encode, encode, length_asReadItems, encodeItems_asReadItems]

private theorem encodeItems_asReadItems (items : List Frame) : encodeItems (asReadItems items) = encodeItems items := by
  match items with
  | [] => rfl
  | item :: items => rw [asReadItems, encodeItems, encodeItems, encode_asRead, encodeItems_asReadItems]

end

end Frame

namespace Decoder

/-- A frame that a decoder gives can be written as it is, and keeps to the limit of the decoder. -/
theorem next_proper {decoder rest : Decoder} {frame : Frame} (found : decoder.next = (.frame frame, rest)) :
    frame.Lined ∧ frame.Fits decoder.limit := by
  unfold next at found
  split at found
  next => cases found
  next => cases found
  next read =>
    cases found
    obtain ⟨text, written, -⟩ := Frame.decode_complete_iff_written.mp read
    exact ⟨written.lined, written.fits⟩

private theorem drain_proper (decoder : Decoder) :
    Frame.LinedItems decoder.drain.frames ∧ Frame.FitsItems decoder.limit decoder.drain.frames := by
  cases asked : decoder.next with
  | mk answer rest =>
    cases answer with
    | incomplete | failed =>
      rw [drain, drainOnto_step, asked]
      exact ⟨trivial, trivial⟩
    | frame frame =>
      have shorter := next_shorter asked
      obtain ⟨lined, fits⟩ := next_proper asked
      obtain ⟨later, room⟩ := drain_proper rest
      rw [drain_frame asked]
      exact ⟨⟨lined, later⟩, fits, next_limit asked ▸ room⟩
termination_by decoder.buffer.length

private theorem drain_encoded {limit : Nat} {frames : List Frame} (lined : Frame.LinedItems frames)
    (fits : Frame.FitsItems limit frames) :
    drain { limit, buffer := Frame.encodeItems frames } =
      { frames := Frame.asReadItems frames, stop := none, rest := { limit } } := by
  induction frames with
  | nil => exact drain_incomplete (next_empty limit)
  | cons frame frames ih =>
    rw [Frame.encodeItems, drain_frame (next_encoded lined.1 fits.1 _), ih lined.2 fits.2]
    rfl

/-- Whatever bytes the frames were read from, written again they are read to the last byte under the same limit, nulls in
the one form in which they are written, and from then on the bytes do not change any more. -/
theorem decoded_frames_rewrite (limit : Nat) (bytes : Bytes) :
    let frames := (append { limit } bytes).drain.frames
    let written := (frames.foldl Encoder.encode {}).take.1
    let again := (append { limit } written).drain
    again = { frames := Frame.asReadItems frames, stop := none, rest := { limit } } ∧
      (again.frames.foldl Encoder.encode {}).take.1 = written := by
  intro frames written again
  obtain ⟨lined, fits⟩ := drain_proper (append { limit } bytes)
  have form : written = Frame.encodeItems frames := Encoder.buffer_encoded {} frames
  have drained : again = { frames := Frame.asReadItems frames, stop := none, rest := { limit } } := by
    have read := drain_encoded lined fits
    rw [← form] at read
    exact read
  refine ⟨drained, ?_⟩
  rw [drained, form]
  exact (Encoder.buffer_encoded {} _).trans (Frame.encodeItems_asReadItems frames)

/-- Signs, leading zeros and the length of a null are given up at once; the frames are kept. -/
example : (append { limit := 32 } (Bytes.ofText "*+02\r\n:-007\r\n*-9\r\n$00\r\n\r\n?")).drain.frames =
    [.array [.integer (-7), .null], .bulk (some [])] := by
  decide +kernel

end Decoder

end Subscriber
