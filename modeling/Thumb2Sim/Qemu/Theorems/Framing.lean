import Thumb2Sim.Qemu.Theorems.Tokenizer

open Ascii DebuggingProtocol

-- The payload ends at the first hash, so that it cannot have one itself.
structure Frame where
  payload   : List Byte
  cksum     : List Byte
  noHash    : ofChar '#' ∉ payload
  twoDigits : cksum.length = 2

namespace Frame

variable {f : Frame}

def bytes (f : Frame) : List Byte :=
  ofString "+$" ++ f.payload ++ (ofString "#" ++ f.cksum)

-- The message that the tokenizer makes of a frame. The two bytes that it takes for the checksum begin
-- with the hash.
def received (f : Frame) : DebuggingProtocolResponse where
  success := true
  data    := f.payload
  rxCksum := some <| ofString "#" ++ f.cksum.take 1

-- The place of the hash.
theorem header_length (f : Frame) : (ofString "+$" ++ f.payload).length = f.payload.length + 2 := by
  rw [List.length_append, Nat.add_comm]
  rfl

theorem hashIndex_bytes (f : Frame) : hashIndex f.bytes = f.payload.length + 2 := by
  have hn : ofChar '#' ∉ ofString "+$" ++ f.payload := by
    rw [List.mem_append, not_or]
    exact ⟨by decide, f.noHash⟩
  rw [hashIndex, bytes, List.idxOf_append_of_notMem hn, header_length]
  exact Nat.add_eq_left.mpr List.idxOf_cons_self

theorem bytes_length (f : Frame) : f.bytes.length = f.payload.length + 5 := by
  rw [bytes, List.length_append, header_length, List.length_append, f.twoDigits]
  rfl

theorem isComplete_bytes (f : Frame) : IsComplete f.bytes := by
  have hl := f.bytes_length
  have hi := f.hashIndex_bytes
  refine ⟨by omega, ?_, ?_, by omega⟩
  case refine_1 => rw [bytes, List.append_assoc]; exact List.prefix_append ..
  case refine_2 => exact List.mem_append_right _ List.mem_cons_self

theorem token_bytes (f : Frame) : token f.bytes = some (f.received, []) := by
  have ht : f.bytes.take (f.payload.length + 2) = ofString "+$" ++ f.payload :=
    List.take_left' f.header_length
  have hd : f.bytes.drop (f.payload.length + 2) = ofString "#" ++ f.cksum :=
    List.drop_left' f.header_length
  have hr : f.bytes.drop (f.payload.length + 5) = [] :=
    List.drop_eq_nil_of_le <| Nat.le_of_eq f.bytes_length
  rw [token_of_isComplete f.isComplete_bytes, hashIndex_bytes, ht, hd, hr]
  rfl

theorem tokenizer_append (f : Frame) (more : List Byte) :
    tokenizer (f.bytes ++ more) = (f.received :: (tokenizer more).1, (tokenizer more).2) := by
  rw [tokenizer_of_some <| token_append f.token_bytes, List.nil_append]

-- Frames one behind the other.
theorem tokenizer_flatMap (fs : List Frame) :
    tokenizer (fs.flatMap bytes) = (fs.map received, []) := by
  induction fs
  case nil          => exact tokenizer_of_none rfl
  case cons f fs hi => rw [List.flatMap_cons, tokenizer_append, hi, List.map_cons]

end Frame

-- The functions that send frames.
inductive Sender
  | server
  | client

namespace Sender

def send : Sender → List Byte → List Byte
  | server => txFrame
  | client => frame

end Sender

-- Both sums are the same modulo 256.
theorem txFrame_eq_frame (data : List Byte) : txFrame data = frame data := by
  have hs : ∀ (data : List Byte) (x : Byte),
      (data.foldl (· + ·) x).toNat = (x.toNat + (data.map BitVec.toNat).sum) % 2 ^ 8 := by
    intro data
    induction data
    case nil => exact fun x => (Nat.mod_eq_of_lt x.isLt).symm
    case cons b data hi =>
      intro x
      rw [List.foldl_cons, hi, BitVec.toNat_add, Nat.mod_add_mod, Nat.add_assoc, List.map_cons,
        List.sum_cons]
  have hc : (data.foldl (· + ·) 0).toNat = checksum data := by
    rw [hs, checksum, Nat.and_two_pow_sub_one_eq_mod _ 8]
    simp
  rw [txFrame, frame, hc, List.append_assoc]

theorem Sender.send_eq (s : Sender) (payload : List Byte) : s.send payload = frame payload := by
  cases s
  case server => exact txFrame_eq_frame payload
  case client => rfl

-- A frame as it is sent for a payload.
structure Sent where
  sender  : Sender
  payload : List Byte
  noHash  : ofChar '#' ∉ payload

namespace Sent

def bytes (s : Sent) : List Byte :=
  s.sender.send s.payload

def digits (s : Sent) : List Byte :=
  s.bytes.drop <| s.bytes.length - 2

-- The frame becomes one message with its payload and its checksum, and nothing remains.
def RoundTrips (s : Sent) : Prop :=
  tokenizer s.bytes = ([⟨true, some s.payload, some s.digits⟩], [])

def frame (s : Sent) : Frame where
  payload   := s.payload
  cksum     := Hex.padded 2 <| checksum s.payload
  noHash    := s.noHash
  twoDigits := Hex.padded_length (by decide) <| Nat.lt_of_le_of_lt Nat.and_le_right (by decide)

theorem bytes_eq (s : Sent) : s.bytes = s.frame.bytes :=
  s.sender.send_eq s.payload

theorem digits_eq (s : Sent) : s.digits = s.frame.cksum := by
  have hl : (ofString "+$" ++ s.payload ++ ofString "#").length = s.payload.length + 3 := by
    rw [List.length_append]
    exact congrArg (· + 1) s.frame.header_length
  have hb : s.frame.bytes.length - 2 = s.payload.length + 3 :=
    congrArg (· - 2) s.frame.bytes_length
  rw [digits, bytes_eq, hb, Frame.bytes, ← List.append_assoc]
  exact List.drop_left' hl

-- What is taken for the checksum begins with the hash.
theorem received_ne (s : Sent) : s.frame.received.rxCksum ≠ some s.digits := by
  intro h
  have hd : s.digits = ofString "#" ++ s.frame.cksum.take 1 := (Option.some.inj h).symm
  have hm : ofChar '#' ∈ s.frame.cksum := by
    rw [← digits_eq, hd]
    exact List.mem_cons_self
  exact absurd (Hex.isDigit_of_mem_padded hm) (by decide)

theorem tokenizer_flatMap (l : List Sent) :
    tokenizer (l.flatMap bytes) = (l.map fun s => s.frame.received, []) := by
  have hb : l.flatMap bytes = (l.map frame).flatMap Frame.bytes := by
    rw [List.flatMap_map]
    exact congrArg (l.flatMap ·) <| funext bytes_eq
  rw [hb, Frame.tokenizer_flatMap, List.map_map]
  rfl

theorem tokenizer_bytes_ne (s : Sent) :
    tokenizer s.bytes ≠ ([⟨true, some s.payload, some s.digits⟩], []) := by
  have ht := tokenizer_flatMap [s]
  rw [List.flatMap_singleton] at ht
  intro h
  injection ht.symm.trans h with h
  injection h with h
  exact s.received_ne <| congrArg DebuggingProtocolResponse.rxCksum h

-- No frame is read back with its checksum, but the payloads of any frames are, in their order.
theorem not_roundTrips (s : Sent) : ¬s.RoundTrips ∧
    ∀ l : List Sent, (tokenizer <| l.flatMap bytes).2 = [] ∧
      (tokenizer <| l.flatMap bytes).1.map (fun msg => (msg.success, msg.data)) =
        l.map fun s => (true, some s.payload) := by
  refine ⟨s.tokenizer_bytes_ne, fun l => ?_⟩
  rw [tokenizer_flatMap, List.map_map]
  exact ⟨rfl, rfl⟩

-- `+$g#67`
theorem not_forall_roundTrips : ¬∀ s : Sent, s.RoundTrips :=
  fun h => tokenizer_bytes_ne ⟨.client, ofString "g", by decide⟩ <| h _

end Sent

-- Bytes in front of a frame.
namespace DebuggingProtocol

variable {f : Frame} {g data : List Byte} {b : Byte}

-- What the tokenizer makes of a byte that does not begin a frame.
def stray (b : Byte) : DebuggingProtocolResponse where
  success := false
  data    := if b = ofChar '-' then none else some [b]
  rxCksum := none

theorem token_cons_of_ne (h : b ≠ ofChar '+') : token (b :: data) = some (stray b, data) := by
  rw [token, if_neg h, stray]
  split <;> rfl

-- Without a plus, every byte is a message of its own.
theorem tokenizer_append_of_notMem (h : ofChar '+' ∉ g) (data : List Byte) :
    tokenizer (g ++ data) = (g.map stray ++ (tokenizer data).1, (tokenizer data).2) := by
  induction g
  case nil => rfl
  case cons b g hi =>
    rw [List.mem_cons, not_or] at h
    rw [List.cons_append, tokenizer_of_some <| token_cons_of_ne <| Ne.symm h.left, hi h.right]
    rfl

-- Behind a plus without a dollar, the tokenizer waits forever.
theorem tokenizer_plus (h : data.head? ≠ some (ofChar '$')) :
    tokenizer (ofChar '+' :: data) = ([], ofChar '+' :: data) := by
  have hc : ¬IsComplete (ofChar '+' :: data) := by
    intro hc
    obtain ⟨t, ht⟩ := hc.right.left
    exact h <| congrArg (·.tail.head?) ht.symm
  refine tokenizer_of_none ?_
  rw [token, if_pos rfl, if_neg hc]

theorem tokenizer_stuck (hs : ¬ofString "+$" <:+: g) (hp : ofChar '+' ∈ g) (more : List Byte) :
    ∀ msg ∈ (tokenizer <| g ++ (f.bytes ++ more)).1, msg.success = false := by
  obtain ⟨g₁, g₂, rfl, hn⟩ := List.eq_append_cons_of_mem hp
  have hh : (g₂ ++ (f.bytes ++ more)).head? ≠ some (ofChar '$') := by
    cases g₂
    case nil => exact fun h => absurd (Option.some.inj h) (by decide)
    case cons b g₂ =>
      intro h
      have hb : b = ofChar '$' := Option.some.inj h
      exact hs ⟨g₁, g₂, by rw [hb]; simp [ofString]⟩
  rw [List.append_assoc, List.cons_append, tokenizer_append_of_notMem hn, tokenizer_plus hh,
    List.append_nil]
  intro msg hm
  obtain ⟨b, -, rfl⟩ := List.mem_map.mp hm
  rfl

-- The message of the frame is delivered, whatever the chunks are.
def Delivers (g : List Byte) (f : Frame) : Prop :=
  ∀ chunks : List (List Byte), chunks.flatten = g ++ f.bytes →
    ∃ msg ∈ (chunks.foldl RXBuffer.put RXBuffer.init).msgs, msg.success ∧ msg.data = some f.payload

theorem delivers_of_notMem (h : ofChar '+' ∉ g) : Delivers g f := by
  intro chunks hc
  refine ⟨f.received, ?_, rfl, rfl⟩
  have ht := f.tokenizer_append []
  rw [List.append_nil] at ht
  rw [RXBuffer.msgs_foldl_put, hc, tokenizer_append_of_notMem h, ht]
  exact List.mem_append_right _ List.mem_cons_self

theorem not_delivers (hs : ¬ofString "+$" <:+: g) (hp : ofChar '+' ∈ g) : ¬Delivers g f := by
  intro h
  have ⟨msg, hm, ht, _⟩ := h [g ++ f.bytes] <| List.flatten_singleton ..
  rw [RXBuffer.msgs_foldl_put, List.flatten_singleton] at hm
  have hf := tokenizer_stuck hs hp [] msg <| by rwa [List.append_nil]
  exact absurd ht <| Bool.eq_false_iff.mp hf

-- A plus in front of the frame keeps everything behind it from being delivered.
theorem delivers_iff (hs : ¬ofString "+$" <:+: g) : (Delivers g f ↔ ofChar '+' ∉ g) ∧
    (ofChar '+' ∈ g → ∀ (more : List Byte) (chunks : List (List Byte)),
      chunks.flatten = g ++ (f.bytes ++ more) →
      ∀ msg ∈ (chunks.foldl RXBuffer.put RXBuffer.init).msgs, msg.success = false) := by
  refine ⟨⟨fun hd hp => not_delivers hs hp hd, delivers_of_notMem⟩, fun hp more chunks hc => ?_⟩
  rw [RXBuffer.msgs_foldl_put, hc]
  exact tokenizer_stuck hs hp more

-- An error in front of an empty frame.
theorem delivers_iff_error :
    Delivers (ofString "-") ⟨[], ofString "00", by decide, rfl⟩ ↔ ofChar '+' ∉ ofString "-" :=
  (delivers_iff <| by decide).left

-- A bare acknowledgement.
theorem not_forall_delivers :
    ¬∀ (g : List Byte) (f : Frame), ¬ofString "+$" <:+: g → Delivers g f := by
  intro h
  let f : Frame := ⟨[], ofString "00", by decide, rfl⟩
  have hs : ¬ofString "+$" <:+: ofString "+" := by decide
  exact not_delivers hs (by decide) <| h (ofString "+") f hs

end DebuggingProtocol
