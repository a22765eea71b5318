import Thumb2Sim.Lib.Hex

-- Bytes as a text of digits to the base 64, four for every three bytes.
namespace Base64

open Ascii

def digit (d : Nat) : BitVec 8 :=
  if d < 26 then BitVec.ofNat 8 (65 + d)
  else if d < 52 then BitVec.ofNat 8 (97 + (d - 26))
  else if d < 62 then BitVec.ofNat 8 (48 + (d - 52))
  else if d = 62 then ofChar '+'
  else ofChar '/'

def digitValue (b : BitVec 8) : Option Nat :=
  if ofChar 'A' ≤ b ∧ b ≤ ofChar 'Z' then
    some (b.toNat - 65)
  else if ofChar 'a' ≤ b ∧ b ≤ ofChar 'z' then
    some (b.toNat - 97 + 26)
  else if ofChar '0' ≤ b ∧ b ≤ ofChar '9' then
    some (b.toNat - 48 + 52)
  else if b = ofChar '+' then
    some 62
  else if b = ofChar '/' then
    some 63
  else
    none

def pad : BitVec 8 :=
  ofChar '='

def encode : List (BitVec 8) → List (BitVec 8)
  | []             => []
  | [a]            => [digit (a.toNat / 4), digit (a.toNat % 4 * 16), pad, pad]
  | [a, b]         =>
    [digit (a.toNat / 4), digit (a.toNat % 4 * 16 + b.toNat / 16), digit (b.toNat % 16 * 4), pad]
  | a :: b :: c :: s =>
    digit (a.toNat / 4) :: digit (a.toNat % 4 * 16 + b.toNat / 16) ::
      digit (b.toNat % 16 * 4 + c.toNat / 64) :: digit (c.toNat % 64) :: encode s

-- The digits are read one by one. There are `quadPos` of them since the last complete four, the
-- bits `left` of which are still to be given out, and `pads` paddings behind them. What is neither
-- a digit nor a padding is skipped, and nothing is read behind the padding that completes four.
def decodeLoop (quadPos left pads : Nat) : List (BitVec 8) → Option (List (BitVec 8))
  | []     => if quadPos = 0 then some [] else none
  | c :: s =>
    if c = pad then
      if 2 ≤ quadPos then
        if 4 ≤ quadPos + (pads + 1) then some [] else decodeLoop quadPos left (pads + 1) s
      else
        decodeLoop quadPos left pads s
    else
      match digitValue c with
      | none   => decodeLoop quadPos left pads s
      | some v =>
        match quadPos with
        | 0 => decodeLoop 1 v 0 s
        | 1 => (decodeLoop 2 (v % 16) 0 s).map (BitVec.ofNat 8 (left * 4 + v / 16) :: ·)
        | 2 => (decodeLoop 3 (v % 4) 0 s).map (BitVec.ofNat 8 (left * 16 + v / 4) :: ·)
        | _ => (decodeLoop 0 0 0 s).map (BitVec.ofNat 8 (left * 64 + v) :: ·)

def decode (s : List (BitVec 8)) : Option (List (BitVec 8)) :=
  decodeLoop 0 0 0 s

variable {left pads v : Nat} {b : BitVec 8} {s : List (BitVec 8)}

theorem digit_spec (h : v < 64) : digitValue (digit v) = some v ∧ digit v ≠ pad := by
  revert v
  decide

section DecodeLoop

variable (h : v < 64)
include h

theorem decodeLoop_zero : decodeLoop 0 left pads (digit v :: s) = decodeLoop 1 v 0 s := by
  rw [decodeLoop, if_neg (digit_spec h).right, (digit_spec h).left]
  rfl

theorem decodeLoop_one : decodeLoop 1 left pads (digit v :: s) =
    (decodeLoop 2 (v % 16) 0 s).map (BitVec.ofNat 8 (left * 4 + v / 16) :: ·) := by
  rw [decodeLoop, if_neg (digit_spec h).right, (digit_spec h).left]
  rfl

theorem decodeLoop_two : decodeLoop 2 left pads (digit v :: s) =
    (decodeLoop 3 (v % 4) 0 s).map (BitVec.ofNat 8 (left * 16 + v / 4) :: ·) := by
  rw [decodeLoop, if_neg (digit_spec h).right, (digit_spec h).left]
  rfl

theorem decodeLoop_three : decodeLoop 3 left pads (digit v :: s) =
    (decodeLoop 0 0 0 s).map (BitVec.ofNat 8 (left * 64 + v) :: ·) := by
  rw [decodeLoop, if_neg (digit_spec h).right, (digit_spec h).left]
  rfl

end DecodeLoop

theorem ofNat_eq (h : v = b.toNat) : BitVec.ofNat 8 v = b := by
  rw [h, BitVec.ofNat_toNat, BitVec.setWidth_eq]

-- The pieces of the bytes are put together again.
theorem decode_encode (s : List (BitVec 8)) : decode (encode s) = some s := by
  induction s using encode.induct
  case case1 => rfl
  case case2 a =>
    have ha := a.isLt
    rw [encode, decode, decodeLoop_zero (by omega), decodeLoop_one (by omega), decodeLoop, if_pos rfl,
      if_pos (by decide), if_neg (by decide), decodeLoop, if_pos rfl, if_pos (by decide),
      if_pos (by decide), ofNat_eq (show _ = a.toNat by omega)]
    rfl
  case case3 a b =>
    have ha := a.isLt
    have hb := b.isLt
    rw [encode, decode, decodeLoop_zero (by omega), decodeLoop_one (by omega),
      decodeLoop_two (by omega), decodeLoop, if_pos rfl, if_pos (by decide), if_pos (by decide),
      ofNat_eq (show _ = a.toNat by omega), ofNat_eq (show _ = b.toNat by omega)]
    rfl
  case case4 a b c s hi =>
    have ha := a.isLt
    have hb := b.isLt
    have hc := c.isLt
    rw [encode, decode, decodeLoop_zero (by omega), decodeLoop_one (by omega),
      decodeLoop_two (by omega), decodeLoop_three (by omega), ← decode, hi,
      ofNat_eq (show _ = a.toNat by omega), ofNat_eq (show _ = b.toNat by omega),
      ofNat_eq (show _ = c.toNat by omega)]
    rfl

def IsDigit (b : BitVec 8) : Prop :=
  (digitValue b).isSome

instance : DecidablePred IsDigit :=
  fun b => inferInstanceAs <| Decidable ((digitValue b).isSome = true)

theorem isDigit_digit (h : v < 64) : IsDigit (digit v) := by
  rw [IsDigit, (digit_spec h).left]
  rfl

-- The text begins with a digit.
theorem isDigit_head? (h : b ∈ (encode s).head?) : IsDigit b := by
  have hd (a : BitVec 8) : IsDigit (digit (a.toNat / 4)) := isDigit_digit <| by omega
  cases s using encode.fun_cases <;> simp only [encode, List.head?_cons, Option.mem_some_iff] at h
  case case1 => cases h
  all_goals exact h ▸ hd _

end Base64
