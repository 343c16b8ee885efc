import Mathlib.Data.List.Infix
import Subscriber.Proofs.Decoding

/-! The written form of a frame is read back. Simple strings and error replies must fit on one line, and
the null array comes back as the null payload; apart from that the reader either returns what was written
or objects to a length that is above its limits. -/

namespace Subscriber

namespace Decimal

theorem digit_toNat {n : Nat} (small : n < 10) : (digit n).toNat = 48 + n := by
  simp only [digit, UInt8.toNat_ofNat']
  omega

theorem isDigit_digit {n : Nat} (small : n < 10) : isDigit (digit n) = true := by
  have value := digit_toNat small
  simp only [isDigit, Bool.and_eq_true, decide_eq_true_eq, UInt8.le_iff_toNat_le, value]
  exact ⟨Nat.le_add_right 48 n, by change 48 + n ≤ 57; omega⟩

theorem isDigit_of_mem_ofNat {n : Nat} {byte : UInt8} (member : byte ∈ ofNat n) : isDigit byte = true := by
  rw [ofNat] at member
  split at member
  next small =>
    rw [List.mem_singleton.mp member]
    exact isDigit_digit small
  next =>
    rcases List.mem_append.mp member with before | last
    · exact isDigit_of_mem_ofNat before
    · rw [List.mem_singleton.mp last]
      exact isDigit_digit (Nat.mod_lt n (by omega))
termination_by n
decreasing_by omega

private theorem ofNat_ne_nil (n : Nat) : ofNat n ≠ [] := by
  rw [ofNat]
  split
  · exact List.cons_ne_nil _ _
  · exact List.append_ne_nil_of_right_ne_nil _ (List.cons_ne_nil _ _)

theorem value_ofNat (n : Nat) : value (ofNat n) = n := by
  rw [ofNat]
  split
  next small =>
    simp only [value, List.foldl_cons, List.foldl_nil, digit_toNat small]
    omega
  next =>
    have earlier := value_ofNat (n / 10)
    have last := digit_toNat (Nat.mod_lt n (by omega : 0 < 10))
    simp only [value, List.foldl_append, List.foldl_cons, List.foldl_nil, last] at earlier ⊢
    omega
termination_by n
decreasing_by omega

theorem nat?_ofNat (n : Nat) : nat? (ofNat n) = some n := by
  have digits : (ofNat n).all isDigit = true := List.all_eq_true.mpr fun _ member => isDigit_of_mem_ofNat member
  have some : (ofNat n).isEmpty = false := by simpa using ofNat_ne_nil n
  simp only [nat?, some, digits, Bool.not_false, Bool.and_self, if_true, value_ofNat]

theorem int?_ofNat (n : Nat) : int? (ofNat n) = some (Int.ofNat n) := by
  have unsigned (sign : UInt8) (behind : Bytes) (form : ofNat n = sign :: behind) : isDigit sign = true :=
    isDigit_of_mem_ofNat (form ▸ List.mem_cons_self)
  unfold int?
  split
  next behind form => exact absurd (unsigned 43 behind form) (by decide)
  next behind form => exact absurd (unsigned 45 behind form) (by decide)
  next => rw [nat?_ofNat]; rfl

private theorem int?_ofInt (n : Int) : int? (ofInt n) = some n := by
  cases n with
  | ofNat n => exact int?_ofNat n
  | negSucc n =>
    simp only [ofInt, int?, nat?_ofNat, Option.map_some]
    rfl

private theorem int64?_ofInt_toInt (value : Int64) : int64? (ofInt value.toInt) = some value := by
  have low := value.minValue_le_toInt
  have high := value.toInt_le
  simp only [int64?, int?_ofInt]
  rw [if_pos ⟨low, by simpa using high⟩, Int64.ofInt_toInt]

theorem int64?_ofNat (n : Nat) : int64? (ofNat n) =
    if Int64.maxValue.toInt < (n : Int) then none else some (Int64.ofInt n) := by
  have low : Int64.minValue.toInt ≤ (n : Int) := Int.le_trans (by decide) (Int.natCast_nonneg n)
  simp only [int64?, int?_ofNat, Int.ofNat_eq_natCast, low, true_and]
  by_cases small : (n : Int) ≤ Int64.maxValue.toInt
  · rw [if_pos small, if_neg (Int.not_lt.mpr small)]
  · rw [if_neg small, if_pos (Int.not_le.mp small)]

end Decimal

namespace Bytes

def OneLine (text : Bytes) : Prop := ¬ lineEnd <:+: text

theorem oneLine_of_not_mem {text : Bytes} (absent : (13 : UInt8) ∉ text) : OneLine text :=
  fun inside => absent (inside.subset (by simp [lineEnd]))

private theorem splitLine_line {text : Bytes} (oneLine : OneLine text) (passed rest : Bytes) :
    splitLine passed (text ++ lineEnd ++ rest) = some (passed.reverse ++ text, rest) := by
  induction text generalizing passed with
  | nil => simp [splitLine, lineEnd]
  | cons first text ih =>
    have shorter : OneLine text := fun inside => oneLine (List.infix_cons inside)
    have later := ih shorter (first :: passed)
    obtain ⟨second, behind, form⟩ : ∃ second behind, text ++ lineEnd ++ rest = second :: behind := by
      cases text with
      | nil => exact ⟨_, _, rfl⟩
      | cons second text => exact ⟨_, _, rfl⟩
    have goesOn : ¬ (first = 13 ∧ second = 10) := by
      rintro ⟨rfl, rfl⟩
      cases text with
      | nil => cases form
      | cons next text =>
        cases form
        exact oneLine ⟨[], text, rfl⟩
    rw [form] at later
    rw [List.cons_append, List.cons_append, form, splitLine, if_neg goesOn, later]
    simp

end Bytes

namespace Decimal

theorem oneLine_ofNat (n : Nat) : Bytes.OneLine (ofNat n) :=
  Bytes.oneLine_of_not_mem fun member => absurd (isDigit_of_mem_ofNat member) (by decide)

private theorem oneLine_ofInt (n : Int) : Bytes.OneLine (ofInt n) := by
  cases n with
  | ofNat n => exact oneLine_ofNat n
  | negSucc n =>
    refine Bytes.oneLine_of_not_mem fun member => ?_
    rcases List.mem_cons.mp member with sign | digits
    · exact absurd sign (by decide)
    · exact absurd (isDigit_of_mem_ofNat digits) (by decide)

end Decimal

namespace Frame

mutual

/-- Simple strings and error replies end with their line. -/
def Lined : Frame → Prop
  | .simple text | .error text => Bytes.OneLine text
  | .integer _ | .bulk _ | .null => True
  | .array items => LinedItems items

def LinedItems : List Frame → Prop
  | [] => True
  | item :: items => Lined item ∧ LinedItems items

end

mutual

/-- What is read back. -/
def asRead : Frame → Frame
  | .null => .bulk none
  | .array items => .array (asReadItems items)
  | frame => frame

def asReadItems : List Frame → List Frame
  | [] => []
  | item :: items => asRead item :: asReadItems items

end

/-- Why a length is not accepted: it is no 64-bit number or above the limit. -/
def lengthFault? (limit : Nat) (cause : DecodeError) (length : Nat) : Option DecodeError :=
  if Int64.maxValue.toInt < (length : Int) then some .invalidInteger
  else if limit < length then some cause
  else none

mutual

def fault? (limit : Nat) : Frame → Option DecodeError
  | .bulk (some payload) => lengthFault? limit .bulkTooLong payload.length
  | .array items => (lengthFault? (limit / 16) .arrayTooLong items.length).or (faultItems? limit items)
  | .simple _ | .error _ | .integer _ | .bulk none | .null => none

def faultItems? (limit : Nat) : List Frame → Option DecodeError
  | [] => none
  | item :: items => (fault? limit item).or (faultItems? limit items)

end

theorem encodeItems_append (before after : List Frame) :
    encodeItems (before ++ after) = encodeItems before ++ encodeItems after := by
  induction before with
  | nil => rfl
  | cons item items ih => simp only [List.cons_append, encodeItems, ih, List.append_assoc]

theorem payload_encoded (content rest : Bytes) :
    payload content.length (content ++ Bytes.lineEnd ++ rest) = .complete (.whole (.bulk (some content))) rest := by
  have behind : content ++ Bytes.lineEnd ++ rest = content ++ 13 :: 10 :: rest := by
    simp [Bytes.lineEnd]
  simp only [payload, List.splitAt_eq, behind, List.take_left, List.drop_left, and_self, if_true]

theorem toNat_length {length : Nat} (small : ¬ Int64.maxValue.toInt < (length : Int)) :
    (Int64.ofInt length).toInt = length := by
  apply Int64.toInt_ofInt_of_le
  · exact Int.le_trans (by decide) (Int.natCast_nonneg length)
  · exact Int.lt_of_le_of_lt (Int.not_lt.mp small) (by decide)

theorem splitLine_encoded {text : Bytes} (oneLine : Bytes.OneLine text) (rest : Bytes) :
    Bytes.splitLine [] (text ++ Bytes.lineEnd ++ rest) = some (text, rest) := by
  rw [Bytes.splitLine_line oneLine, List.reverse_nil, List.nil_append]

private theorem head_bulk (limit : Nat) (content rest : Bytes) :
    head limit (encode (.bulk (some content)) ++ rest) =
      match lengthFault? limit .bulkTooLong content.length with
      | some cause => .malformed cause
      | none => .complete (.whole (.bulk (some content))) rest := by
  have line := splitLine_encoded (Decimal.oneLine_ofNat content.length) (content ++ Bytes.lineEnd ++ rest)
  have form : encode (.bulk (some content)) ++ rest =
      bulkTag :: (Decimal.ofNat content.length ++ Bytes.lineEnd ++ (content ++ Bytes.lineEnd ++ rest)) := by
    simp only [encode, Frame.line, List.cons_append, List.append_assoc]
  rw [form]
  simp only [head, line, bulkTag, simpleTag, errorTag, integerTag, Decimal.int64?_ofNat, lengthFault?]
  by_cases big : Int64.maxValue.toInt < (content.length : Int)
  · simp [big]
  · have length := toNat_length big
    have positive : ¬ (content.length : Int) < 0 := Int.not_lt.mpr (Int.natCast_nonneg _)
    by_cases long : limit < content.length
    · simp [big, length, positive, long]
    · have whole := payload_encoded content rest
      rw [List.append_assoc] at whole
      simp [big, length, positive, long, whole]

private theorem head_array (limit count : Nat) (rest : Bytes) :
    head limit (line arrayTag (Decimal.ofNat count) ++ rest) =
      match lengthFault? (limit / 16) .arrayTooLong count with
      | some cause => .malformed cause
      | none => .complete (.items count) rest := by
  have first := splitLine_encoded (Decimal.oneLine_ofNat count) rest
  rw [Frame.line, List.cons_append]
  simp only [head, first, arrayTag, bulkTag, simpleTag, errorTag, integerTag, Decimal.int64?_ofNat, lengthFault?]
  by_cases big : Int64.maxValue.toInt < (count : Int)
  · simp [big]
  · have length := toNat_length big
    have positive : ¬ (count : Int) < 0 := Int.not_lt.mpr (Int.natCast_nonneg _)
    by_cases long : limit / 16 < count
    · simp [big, length, positive, long]
    · simp [big, length, positive, long]

private theorem head_single (limit : Nat) {frame : Frame} (lined : frame.Lined)
    (single : ∀ content items, frame ≠ .bulk (some content) ∧ frame ≠ .array items) (rest : Bytes) :
    head limit (frame.encode ++ rest) = .complete (.whole frame.asRead) rest := by
  have missing : head limit (line bulkTag (Decimal.ofInt (-1)) ++ rest) = .complete (.whole (.bulk none)) rest := by
    have first := splitLine_encoded (Decimal.oneLine_ofInt (-1)) rest
    have length : Decimal.int64? (Decimal.ofInt (-1)) = some (-1) := Decimal.int64?_ofInt_toInt (-1)
    rw [Frame.line, List.cons_append]
    simp only [head, first, length, bulkTag, simpleTag, errorTag, integerTag]
    rfl
  cases frame with
  | simple text =>
    rw [encode, Frame.line, List.cons_append, head, splitLine_encoded lined]
    rfl
  | error text =>
    rw [encode, Frame.line, List.cons_append, head, splitLine_encoded lined]
    rfl
  | integer value =>
    rw [encode, Frame.line, List.cons_append, head, splitLine_encoded (Decimal.oneLine_ofInt value.toInt)]
    simp only [Decimal.int64?_ofInt_toInt, integerTag, simpleTag, errorTag]
    rfl
  | bulk payload =>
    cases payload with
    | none => exact missing
    | some content => exact absurd rfl (single content []).1
  | array items => exact absurd rfl (single [] items).2
  | null => exact missing

theorem resume_next (limit : Nat) (read : List Frame) (missing : Nat) (outer : List Opening) (frame : Frame)
    (rest : Bytes) : resume limit ({ missing := missing + 1, read } :: outer) frame rest =
      readInside limit ({ missing, read := frame :: read } :: outer) rest := rfl

theorem resume_last (limit : Nat) (read : List Frame) (outer : List Opening) (frame : Frame) (rest : Bytes) :
    resume limit ({ missing := 0, read } :: outer) frame rest =
      resume limit outer (.array (frame :: read).reverse) rest := rfl

mutual

/-- Wherever a written frame stands, the reader comes to its end with the frame, or objects to a length. -/
theorem readInside_encode (limit : Nat) (outer : List Opening) (frame : Frame) (lined : frame.Lined) (rest : Bytes) :
    readInside limit outer (frame.encode ++ rest) =
      match frame.fault? limit with
      | some cause => .malformed cause
      | none => resume limit outer frame.asRead rest := by
  have single (simple : ∀ content items, frame ≠ .bulk (some content) ∧ frame ≠ .array items) :
      readInside limit outer (frame.encode ++ rest) = resume limit outer frame.asRead rest := by
    rw [readInside_step, head_single limit lined simple]
  match frame with
  | .simple _ | .error _ | .integer _ | .null | .bulk none => exact single (by simp)
  | .bulk (some content) =>
    rw [readInside_step, head_bulk, fault?]
    cases lengthFault? limit .bulkTooLong content.length with
    | none => rfl
    | some cause => rfl
  | .array [] =>
    rw [readInside_step, encode, encodeItems, List.append_nil, head_array, fault?, faultItems?, Option.or_none]
    cases lengthFault? (limit / 16) .arrayTooLong ([] : List Frame).length with
    | none => rfl
    | some cause => rfl
  | .array (item :: items) =>
    rw [readInside_step, encode, List.append_assoc, head_array, fault?]
    cases lengthFault? (limit / 16) .arrayTooLong (item :: items).length with
    | some cause => rfl
    | none =>
      have inside := readInside_encodeItems limit [] outer (item :: items) (List.cons_ne_nil _ _) lined rest
      rw [List.reverse_nil, List.nil_append] at inside
      rw [Option.none_or]
      exact inside

theorem readInside_encodeItems (limit : Nat) (read : List Frame) (outer : List Opening) (items : List Frame)
    (inhabited : items ≠ []) (lined : LinedItems items) (rest : Bytes) :
    readInside limit ({ missing := items.length - 1, read } :: outer) (encodeItems items ++ rest) =
      match faultItems? limit items with
      | some cause => .malformed cause
      | none => resume limit outer (.array (read.reverse ++ asReadItems items)) rest := by
  match items with
  | [] => exact absurd rfl inhabited
  | item :: items =>
    rw [encodeItems, List.append_assoc, readInside_encode limit _ item lined.1, faultItems?]
    cases item.fault? limit with
    | some cause => rfl
    | none =>
      rw [Option.none_or]
      match items with
      | [] =>
        simp only [faultItems?, List.length_cons, List.length_nil, Nat.add_sub_cancel, resume_last, List.reverse_cons,
          asReadItems, encodeItems, List.nil_append]
      | next :: items =>
        have inside := readInside_encodeItems limit (item.asRead :: read) outer (next :: items) (List.cons_ne_nil _ _)
          lined.2 rest
        simp only [List.length_cons, Nat.add_sub_cancel, resume_next] at inside ⊢
        simpa only [List.reverse_cons, List.append_assoc, List.singleton_append, asReadItems] using inside

end

/-- A frame is not found before its last byte is there. -/
theorem readInside_proper {frame found : Frame} {bytes rest : Bytes} (limit : Nat) (lined : frame.Lined)
    (start : bytes <+: frame.encode) (proper : bytes.length < frame.encode.length) :
    readInside limit [] bytes ≠ .complete found rest := by
  intro early
  obtain ⟨behind, form⟩ := start
  -- With the missing bytes behind it the same reading would leave them, but the whole frame leaves nothing.
  have whole := readInside_encode limit [] frame lined []
  rcases readInside_append limit [] bytes behind with waits | same
  · rw [waits] at early
    cases early
  · rw [List.append_nil, ← form, same, early] at whole
    have nothing : rest ++ behind = [] := by
      cases objection : frame.fault? limit with
      | some cause => rw [objection] at whole; cases whole
      | none =>
        rw [objection] at whole
        exact (Reading.complete.inj whole).2
    have size := congrArg List.length form
    rw [(List.append_eq_nil_iff.mp nothing).2] at size
    simp only [List.append_nil] at size
    omega

theorem encode_ne_nil (frame : Frame) : frame.encode ≠ [] := by
  match frame with
  | .simple _ | .error _ | .integer _ | .bulk none | .bulk (some _) | .array _ | .null => simp [encode, line]

end Frame

namespace Decoder

theorem next_complete {decoder : Decoder} {frame : Frame} {rest : Bytes}
    (read : Frame.readInside decoder.limit [] decoder.buffer = .complete frame rest) :
    decoder.next = (.frame frame, { decoder with buffer := rest }) := by
  simp only [next, Frame.decode, read]

theorem next_malformed {decoder : Decoder} {cause : DecodeError}
    (read : Frame.readInside decoder.limit [] decoder.buffer = .malformed cause) :
    decoder.next = (.failed cause, decoder) := by
  simp only [next, Frame.decode, read]

theorem next_unfinished {decoder : Decoder}
    (waits : ∀ frame rest, Frame.readInside decoder.limit [] decoder.buffer ≠ .complete frame rest) :
    (∃ cause, decoder.next = (.failed cause, decoder)) ∨ decoder.next = (.incomplete, decoder) := by
  cases read : Frame.readInside decoder.limit [] decoder.buffer with
  | malformed cause => exact Or.inl ⟨cause, next_malformed read⟩
  | complete frame rest => exact absurd read (waits frame rest)
  | incomplete =>
    by_cases full : decoder.limit < decoder.buffer.length
    · exact Or.inl ⟨.bufferTooLong, by simp only [next, Frame.decode, read, if_pos full]⟩
    · exact Or.inr (by simp only [next, Frame.decode, read, if_neg full])

/-- A decoder that holds the beginning of written frames takes the first of them as soon as it is there
as a whole, and before that waits, unless it objects to a length. -/
theorem next_of_prefix {decoder : Decoder} {frames : List Frame} (lined : Frame.LinedItems frames)
    (start : decoder.buffer <+: Frame.encodeItems frames) :
    (∃ cause, decoder.next = (.failed cause, decoder)) ∨
    (decoder.next = (.incomplete, decoder) ∧ ∀ frame ∈ frames.head?, decoder.buffer.length < frame.encode.length) ∨
    (∃ frame later rest, frames = frame :: later ∧ decoder.buffer = frame.encode ++ rest ∧
      rest <+: Frame.encodeItems later ∧ decoder.next = (.frame frame.asRead, { decoder with buffer := rest })) := by
  cases frames with
  | nil =>
    have empty : decoder.buffer = [] := List.prefix_nil.mp start
    have nothing (frame : Frame) (rest : Bytes) :
        Frame.readInside decoder.limit [] decoder.buffer ≠ .complete frame rest := by
      rw [empty, Frame.readInside_step]
      exact nofun
    rcases next_unfinished nothing with failed | waits
    · exact Or.inl failed
    · exact Or.inr (Or.inl ⟨waits, nofun⟩)
  | cons frame later =>
    by_cases short : decoder.buffer.length < frame.encode.length
    · have inside : decoder.buffer <+: frame.encode :=
        List.prefix_of_prefix_length_le start (List.prefix_append _ _) (Nat.le_of_lt short)
      rcases next_unfinished fun _ _ => Frame.readInside_proper _ lined.1 inside short with failed | waits
      · exact Or.inl failed
      · refine Or.inr (Or.inl ⟨waits, fun first member => ?_⟩)
        cases member
        exact short
    · have whole : frame.encode <+: decoder.buffer :=
        List.prefix_of_prefix_length_le (List.prefix_append _ _) start (Nat.not_lt.mp short)
      obtain ⟨rest, form⟩ := whole
      have behind : rest <+: Frame.encodeItems later := by
        rw [← form, Frame.encodeItems] at start
        exact (List.prefix_append_right_inj _).mp start
      have read := Frame.readInside_encode decoder.limit [] frame lined.1 rest
      rw [form] at read
      cases objection : frame.fault? decoder.limit with
      | some cause =>
        rw [objection] at read
        exact Or.inl ⟨cause, next_malformed read⟩
      | none =>
        rw [objection] at read
        exact Or.inr (Or.inr ⟨frame, later, rest, rfl, form.symm, behind, next_complete read⟩)

end Decoder

end Subscriber
