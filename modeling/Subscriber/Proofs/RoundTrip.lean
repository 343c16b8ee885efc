import Subscriber.Proofs.Encoding

/-! Frames come back from what was written. Whatever stands behind them, a decoder whose limits they keep to takes them
one after the other, each null array as the null payload, and leaves what stands behind. -/

namespace Subscriber

namespace Frame

/-- Lengths are 64-bit numbers: nothing that is held in memory is longer. -/
def longest : Nat := Int64.maxValue.toInt.toNat

mutual

/-- Every payload keeps to the limit, and every array to one item for every 16 bytes of it. -/
def Fits (limit : Nat) : Frame → Prop
  | .bulk (some payload) => payload.length ≤ limit ∧ payload.length ≤ longest
  | .array items => items.length ≤ limit / 16 ∧ items.length ≤ longest ∧ FitsItems limit items
  | .simple _ | .error _ | .integer _ | .bulk none | .null => True

def FitsItems (limit : Nat) : List Frame → Prop
  | [] => True
  | item :: items => Fits limit item ∧ FitsItems limit items

end

theorem lengthFault?_none {limit length : Nat} {cause : DecodeError} (small : length ≤ limit)
    (held : length ≤ longest) : lengthFault? limit cause length = none := by
  have number : ¬ Int64.maxValue.toInt < (length : Int) := Int.not_lt.mpr (Int.ofNat_le.mpr held)
  rw [lengthFault?, if_neg number, if_neg (Nat.not_lt.mpr small)]

mutual

theorem Fits.fault? {limit : Nat} {frame : Frame} (fits : frame.Fits limit) : frame.fault? limit = none := by
  match frame with
  | .simple _ | .error _ | .integer _ | .bulk none | .null => rfl
  | .bulk (some payload) => exact lengthFault?_none fits.1 fits.2
  | .array items =>
    rw [Frame.fault?, lengthFault?_none fits.1 fits.2.1, FitsItems.faultItems? fits.2.2]
    rfl

theorem FitsItems.faultItems? {limit : Nat} {items : List Frame} (fits : FitsItems limit items) :
    Frame.faultItems? limit items = none := by
  match items with
  | [] => rfl
  | item :: items =>
    rw [Frame.faultItems?, fits.1.fault?, FitsItems.faultItems? fits.2]
    rfl

end

end Frame

namespace Encoder

theorem buffer_encoded (encoder : Encoder) (frames : List Frame) :
    (frames.foldl encode encoder).buffer = encoder.buffer ++ Frame.encodeItems frames := by
  induction frames generalizing encoder with
  | nil => exact (List.append_nil _).symm
  | cons frame frames ih =>
    rw [List.foldl_cons, ih, Frame.encodeItems, ← List.append_assoc]
    rfl

end Encoder

namespace Decoder

def ask : Nat → Decoder → List Answer × Decoder
  | 0, decoder => ([], decoder)
  | more + 1, decoder =>
    let (answer, rest) := decoder.next
    let (answers, last) := ask more rest
    (answer :: answers, last)

theorem next_encoded {limit : Nat} {frame : Frame} (lined : frame.Lined) (fits : frame.Fits limit) (rest : Bytes) :
    next { limit, buffer := frame.encode ++ rest } = (.frame frame.asRead, { limit, buffer := rest }) := by
  have read := Frame.readInside_encode limit [] frame lined rest
  rw [fits.fault?] at read
  exact next_complete read

private theorem ask_encoded {limit : Nat} {frames : List Frame} (lined : Frame.LinedItems frames)
    (fits : Frame.FitsItems limit frames) (rest : Bytes) :
    ask frames.length { limit, buffer := Frame.encodeItems frames ++ rest } =
      (frames.map fun frame => .frame frame.asRead, { limit, buffer := rest }) := by
  induction frames with
  | nil => rfl
  | cons frame frames ih =>
    rw [Frame.encodeItems, List.append_assoc, List.length_cons, ask, next_encoded lined.1 fits.1]
    dsimp only
    rw [ih lined.2 fits.2]
    rfl

/-- What an encoder was given comes back from a decoder, and what stands behind is left as it is. -/
theorem frames_come_back {limit : Nat} {frames : List Frame} (lined : Frame.LinedItems frames)
    (fits : Frame.FitsItems limit frames) (behind : Bytes) :
    let (written, emptied) := (frames.foldl Encoder.encode {}).take
    emptied = {} ∧
      ask frames.length (append { limit } (written ++ behind)) =
        (frames.map fun frame => .frame frame.asRead, { limit, buffer := behind }) := by
  refine ⟨rfl, ?_⟩
  rw [Encoder.buffer_encoded]
  exact ask_encoded lined fits behind

/-- Texts that end in a carriage return, a payload that holds a line end, empty payloads and arrays, nulls inside
arrays and the ends of the integer range. -/
theorem frames_come_back_extremes :
    let frames : List Frame := [.simple [97, 13], .error [10, 13], .bulk (some [13, 10]), .bulk (some []),
      .array [.null, .array [.bulk none, .array []]], .integer Int64.minValue, .integer Int64.maxValue]
    Frame.LinedItems frames ∧ Frame.FitsItems 32 frames ∧
      (ask 7 (append { limit := 32 } ((frames.foldl Encoder.encode {}).take.1 ++ [36]))).1 =
        [.frame (.simple [97, 13]), .frame (.error [10, 13]), .frame (.bulk (some [13, 10])), .frame (.bulk (some [])),
          .frame (.array [.bulk none, .array [.bulk none, .array []]]), .frame (.integer Int64.minValue),
          .frame (.integer Int64.maxValue)] := by
  intro frames
  have lined : Frame.LinedItems frames := by
    simp only [frames, Frame.LinedItems, Frame.Lined, and_true]
    exact ⟨by unfold Bytes.OneLine; decide, by unfold Bytes.OneLine; decide⟩
  have fits : Frame.FitsItems 32 frames := by
    simp only [frames, Frame.FitsItems, Frame.Fits, and_true, true_and]
    decide
  exact ⟨lined, fits, congrArg Prod.fst (frames_come_back lined fits [36]).2⟩

end Decoder

end Subscriber
