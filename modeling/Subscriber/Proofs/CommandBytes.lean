import Mathlib.Algebra.Group.Nat.Defs
import Subscriber.Proofs.Framing
import Subscriber.Proofs.Pipelining

/-! What a server and a connection can make of each other's bytes. Commands can be read from bytes in one way only,
however long they are; what a server says keeps to the limit of a frame if its texts leave a little room. -/

namespace Subscriber

namespace Frame

private theorem line_unique {tag : UInt8} {text other rest behind : Bytes} (oneLine : Bytes.OneLine text)
    (otherLine : Bytes.OneLine other) (same : line tag text ++ rest = line tag other ++ behind) :
    text = other ∧ rest = behind := by
  have lines : text ++ Bytes.lineEnd ++ rest = other ++ Bytes.lineEnd ++ behind := (List.cons.inj same).2
  have read := splitLine_encoded oneLine rest
  rw [lines, splitLine_encoded otherLine] at read
  cases read
  exact ⟨rfl, rfl⟩

theorem count_unique {tag : UInt8} {count other : Nat} {rest behind : Bytes}
    (same : line tag (Decimal.ofNat count) ++ rest = line tag (Decimal.ofNat other) ++ behind) :
    count = other ∧ rest = behind := by
  obtain ⟨digits, rest⟩ := line_unique (Decimal.oneLine_ofNat count) (Decimal.oneLine_ofNat other) same
  refine ⟨?_, rest⟩
  rw [← Decimal.value_ofNat count, digits, Decimal.value_ofNat]

private theorem payload_unique {payload other rest behind : Bytes}
    (same : encode (.bulk (some payload)) ++ rest = encode (.bulk (some other)) ++ behind) :
    payload = other ∧ rest = behind := by
  simp only [encode, List.append_assoc] at same
  obtain ⟨size, contents⟩ := count_unique same
  obtain ⟨whole, ends⟩ := List.append_inj contents size
  exact ⟨whole, List.append_cancel_left ends⟩

private theorem words_unique {words others : List Bytes} {rest behind : Bytes} (size : words.length = others.length)
    (same : encodeItems (words.map fun word => .bulk (some word)) ++ rest =
      encodeItems (others.map fun word => .bulk (some word)) ++ behind) : words = others ∧ rest = behind := by
  induction words generalizing others with
  | nil =>
    cases others with
    | nil => exact ⟨rfl, same⟩
    | cons word others => cases size
  | cons word words ih =>
    cases others with
    | nil => cases size
    | cons other others =>
      simp only [List.map_cons, encodeItems, List.append_assoc] at same
      obtain ⟨rfl, later⟩ := payload_unique same
      obtain ⟨rfl, ends⟩ := ih (Nat.succ.inj size) later
      exact ⟨rfl, ends⟩

end Frame

/-- No command is the beginning of another. -/
theorem Verb.command_unique {verb other : Verb} {targets names : List Bytes} {rest behind : Bytes}
    (same : (verb.command targets).frame.encode ++ rest = (other.command names).frame.encode ++ behind) :
    verb = other ∧ targets = names ∧ rest = behind := by
  simp only [Command.frame, Frame.encode, List.append_assoc, List.length_map] at same
  obtain ⟨count, words⟩ := Frame.count_unique same
  obtain ⟨words, ends⟩ := Frame.words_unique count words
  have frames : (verb.command targets).frame = (other.command names).frame := by
    rw [Command.frame, words, Command.frame]
  obtain ⟨verbs, targets⟩ := Verb.command_inj frames
  exact ⟨verbs, targets, ends⟩

namespace Decimal

theorem length_ofNat {digits n : Nat} (small : n < 10 ^ (digits + 1)) : (ofNat n).length ≤ digits + 1 := by
  induction digits generalizing n with
  | zero =>
    rw [ofNat, if_pos (by omega)]
    exact Nat.le_refl 1
  | succ digits ih =>
    unfold ofNat
    split
    · exact Nat.succ_le_succ (Nat.zero_le _)
    · have fewer : n / 10 < 10 ^ (digits + 1) := Nat.div_lt_of_lt_mul (by rw [← Nat.pow_succ']; exact small)
      rw [List.length_append]
      exact Nat.succ_le_succ (ih fewer)

private theorem length_ofInt64 (value : Int64) : (ofInt value.toInt).length ≤ 20 := by
  have low := value.le_toInt
  have high := value.toInt_lt
  cases number : value.toInt with
  | ofNat n =>
    rw [number] at high
    have small : n < 10 ^ (18 + 1) := Nat.lt_trans (Int.ofNat_lt.mp high) (by decide)
    exact Nat.le_succ_of_le (length_ofNat small)
  | negSucc n =>
    have small : n + 1 < 10 ^ (18 + 1) := by omega
    exact Nat.succ_le_succ (length_ofNat small)

end Decimal

def Remark.size : Remark → Nat
  | .message channel payload => channel.length + payload.length
  | .patternMessage pattern channel payload => pattern.length + channel.length + payload.length
  | .pong payload => payload.length
  | .acknowledgement _ target _ => target.length
  | .refusal text => text.length

/-- A remark with so little in it can be read on a connection as it comes. -/
def Remark.Small (remark : Remark) : Prop := remark.size + 128 ≤ Frame.defaultLimit

instance (remark : Remark) : Decidable remark.Small := inferInstanceAs (Decidable (_ ≤ _))

namespace Frame

theorem length_payload {payload : Bytes} (small : payload.length ≤ defaultLimit) :
    (encode (.bulk (some payload))).length ≤ payload.length + 14 := by
  have digits : (Decimal.ofNat payload.length).length ≤ 8 + 1 :=
    Decimal.length_ofNat (Nat.lt_of_le_of_lt small (by decide))
  simp only [encode, line, List.length_cons, List.length_append, Bytes.lineEnd, List.length_nil]
  omega

theorem fits_payload {payload : Bytes} (small : payload.length ≤ defaultLimit) :
    Fits defaultLimit (.bulk (some payload)) := ⟨small, Nat.le_trans small (by decide)⟩

/-- What a server pushes is a word of its own and at most three parts. -/
theorem push_within {word : Bytes} {parts : List Frame} (short : word.length ≤ 12) (few : parts.length ≤ 3)
    (fits : FitsItems defaultLimit parts) (small : (encodeItems parts).length + 30 ≤ defaultLimit) :
    Fits defaultLimit (.array (.bulk (some word) :: parts)) ∧
      (encode (.array (.bulk (some word) :: parts))).length ≤ defaultLimit := by
  have known : word.length ≤ defaultLimit := Nat.le_trans short (by decide)
  have items : (Frame.bulk (some word) :: parts).length ≤ 4 := Nat.succ_le_succ few
  have digit : (Decimal.ofNat (Frame.bulk (some word) :: parts).length).length ≤ 0 + 1 :=
    Decimal.length_ofNat (Nat.lt_of_le_of_lt items (by decide))
  have first := length_payload known
  refine ⟨⟨Nat.le_trans items (by decide), Nat.le_trans items (by decide), fits_payload known, fits⟩, ?_⟩
  rw [encode, line, encodeItems]
  simp only [List.length_cons, List.length_append, Bytes.lineEnd, List.length_nil] at digit ⊢
  omega

end Frame

theorem Remark.Small.within {remark : Remark} (small : remark.Small) : Frame.Within Frame.defaultLimit [remark.frame] := by
  intro frame member
  cases List.mem_singleton.mp member
  unfold Remark.Small at small
  have part {payload : Bytes} (inside : payload.length ≤ remark.size) : payload.length ≤ Frame.defaultLimit :=
    Nat.le_trans inside (Nat.le_of_add_right_le small)
  cases remark with
  | message channel payload =>
    have channelFits := part (Nat.le_add_right channel.length payload.length)
    have payloadFits := part (Nat.le_add_left payload.length channel.length)
    refine Frame.push_within (by decide) (Nat.le_succ 2)
      ⟨Frame.fits_payload channelFits, Frame.fits_payload payloadFits, trivial⟩ ?_
    have first := Frame.length_payload channelFits
    have second := Frame.length_payload payloadFits
    simp only [Frame.encodeItems, List.length_append, List.length_nil, size] at small ⊢
    omega
  | patternMessage pattern channel payload =>
    have patternFits : pattern.length ≤ Frame.defaultLimit := part (by simp only [size]; omega)
    have channelFits : channel.length ≤ Frame.defaultLimit := part (by simp only [size]; omega)
    have payloadFits : payload.length ≤ Frame.defaultLimit := part (by simp only [size]; omega)
    refine Frame.push_within (by decide) (Nat.le_refl 3)
      ⟨Frame.fits_payload patternFits, Frame.fits_payload channelFits, Frame.fits_payload payloadFits, trivial⟩ ?_
    have first := Frame.length_payload patternFits
    have second := Frame.length_payload channelFits
    have third := Frame.length_payload payloadFits
    simp only [Frame.encodeItems, List.length_append, List.length_nil, size] at small ⊢
    omega
  | pong payload =>
    have payloadFits := part (Nat.le_refl payload.length)
    refine Frame.push_within (by decide) (by simp) ⟨Frame.fits_payload payloadFits, trivial⟩ ?_
    have first := Frame.length_payload payloadFits
    simp only [Frame.encodeItems, List.length_append, List.length_nil, size] at small ⊢
    omega
  | acknowledgement verb target count =>
    have targetFits := part (Nat.le_refl target.length)
    refine Frame.push_within (by cases verb <;> decide) (Nat.le_succ 2) ⟨Frame.fits_payload targetFits, trivial, trivial⟩ ?_
    have first := Frame.length_payload targetFits
    have number := Decimal.length_ofInt64 count
    simp only [Frame.encodeItems, Frame.encode, Frame.line, List.length_append, List.length_cons, Bytes.lineEnd,
      List.length_nil, size] at first small ⊢
    omega
  | refusal text =>
    refine ⟨trivial, ?_⟩
    simp only [Remark.frame, Frame.encode, Frame.line, List.length_append, List.length_cons, Bytes.lineEnd,
      List.length_nil, size] at small ⊢
    omega

end Subscriber
