import Mathlib.Data.BitVec
import Mathlib.Data.List.DropRight

-- Texts as strings of bytes in the ASCII code.
namespace Ascii

def ofChar (c : Char) : BitVec 8 :=
  BitVec.ofNat 8 c.toNat

def ofString (s : String) : List (BitVec 8) :=
  s.toList.map ofChar

def isSpace (b : BitVec 8) : Bool :=
  b = 0x20 ∨ 0x09 ≤ b ∧ b ≤ 0x0d

-- The sign in front of a number. It tells whether the number is negative.
def stripSign : List (BitVec 8) → Bool × List (BitVec 8)
  | 0x2b :: s => (false, s)
  | 0x2d :: s => (true, s)
  | s         => (false, s)

end Ascii

-- Numbers to the base 16.
namespace Hex

def digit (d : Nat) : BitVec 8 :=
  Ascii.ofChar d.digitChar

-- Letters may be small or capital.
def digitValue (b : BitVec 8) : Option Nat :=
  if Ascii.ofChar '0' ≤ b ∧ b ≤ Ascii.ofChar '9' then
    some (b.toNat - 48)
  else if Ascii.ofChar 'a' ≤ b ∧ b ≤ Ascii.ofChar 'f' then
    some (b.toNat - 87)
  else if Ascii.ofChar 'A' ≤ b ∧ b ≤ Ascii.ofChar 'F' then
    some (b.toNat - 55)
  else
    none

def IsDigit (b : BitVec 8) : Prop :=
  (digitValue b).isSome

instance : DecidablePred IsDigit :=
  fun b => inferInstanceAs <| Decidable ((digitValue b).isSome = true)

-- The shortest text of a number, and the one that is filled up to `k` digits.

def digits (n : Nat) : List (BitVec 8) :=
  (Nat.toDigits 16 n).map Ascii.ofChar

def padded (k n : Nat) : List (BitVec 8) :=
  (digits n).leftpad k (Ascii.ofChar '0')

-- The number that the digits at the beginning of a text stand for, if `x` is the number in front of
-- them.
def prefixValue (x : Nat) : List (BitVec 8) → Nat
  | []      => x
  | b :: bs => (digitValue b).elim x fun d => prefixValue (16 * x + d) bs

variable {x n k d : Nat} {b : BitVec 8} {s t : List (BitVec 8)}

theorem digitValue_digit (h : d < 16) : digitValue (digit d) = some d := by
  revert d
  decide

theorem isDigit_digit (h : d < 16) : IsDigit (digit d) := by
  rw [IsDigit, digitValue_digit h]
  rfl

-- Texts of digits begin with neither a space nor a sign.

theorem not_isSpace_of_isDigit (h : IsDigit b) : Ascii.isSpace b = false := by
  revert b
  decide

theorem dropWhile_of_isDigit {p : BitVec 8 → Bool} (hp : ∀ b, IsDigit b → p b = false)
    (h : ∀ b ∈ s, IsDigit b) : s.dropWhile p = s := by
  cases s
  case nil      => rfl
  case cons b s => exact List.dropWhile_cons_of_neg <| by simp [hp b <| h b List.mem_cons_self]

theorem stripSign_of_isDigit (h : ∀ b ∈ s, IsDigit b) : Ascii.stripSign s = (false, s) := by
  unfold Ascii.stripSign
  split
  case h_1 => exact absurd (h _ List.mem_cons_self) (by decide)
  case h_2 => exact absurd (h _ List.mem_cons_self) (by decide)
  case h_3 => rfl

theorem digits_eq_if (n : Nat) :
    digits n = if n < 16 then [digit n] else digits (n / 16) ++ [digit (n % 16)] := by
  unfold digits
  rw [Nat.toDigits_eq_if (by decide)]
  split
  case isTrue  => rfl
  case isFalse => rw [List.map_append]; rfl

theorem isDigit_of_mem_digits (h : b ∈ digits n) : IsDigit b := by
  induction n using Nat.strong_induction_on
  case h n hi =>
    rw [digits_eq_if] at h
    split at h
    case isTrue hn =>
      cases List.mem_singleton.mp h
      exact isDigit_digit hn
    case isFalse hn =>
      cases List.mem_append.mp h
      case inl hm => exact hi (n / 16) (by omega) hm
      case inr hm =>
        cases List.mem_singleton.mp hm
        exact isDigit_digit <| Nat.mod_lt _ (by decide)

theorem isDigit_of_mem_padded (h : b ∈ padded k n) : IsDigit b := by
  cases List.mem_append.mp h
  case inl hr => cases List.eq_of_mem_replicate hr; decide
  case inr hd => exact isDigit_of_mem_digits hd

theorem digits_length_le (hk : 0 < k) (h : n < 16 ^ k) : (digits n).length ≤ k := by
  rw [digits, List.length_map]
  exact (Nat.length_toDigits_le_iff (by decide) hk).mpr h

theorem padded_length (hk : 0 < k) (h : n < 16 ^ k) : (padded k n).length = k := by
  rw [padded, List.leftpad, List.length_append, List.length_replicate]
  exact Nat.sub_add_cancel <| digits_length_le hk h

theorem prefixValue_cons (h : digitValue b = some d) :
    prefixValue x (b :: s) = prefixValue (16 * x + d) s := by
  rw [prefixValue, h]
  rfl

theorem prefixValue_append (h : ∀ b ∈ s, IsDigit b) :
    prefixValue x (s ++ t) = prefixValue (prefixValue x s) t := by
  induction s generalizing x
  case nil => rfl
  case cons b s hi =>
    obtain ⟨d, hd⟩ := Option.isSome_iff_exists.mp <| h b List.mem_cons_self
    rw [List.cons_append, prefixValue_cons hd, prefixValue_cons hd,
      hi fun c hc => h c <| List.mem_cons_of_mem _ hc]

theorem prefixValue_digits (n : Nat) : prefixValue 0 (digits n) = n := by
  induction n using Nat.strong_induction_on
  case h n hi =>
    rw [digits_eq_if]
    split
    case isTrue hn => simp [prefixValue, digitValue_digit hn]
    case isFalse hn =>
      have hm := digitValue_digit <| Nat.mod_lt n (show 0 < 16 by decide)
      rw [prefixValue_append fun _ => isDigit_of_mem_digits, hi _ (by omega), prefixValue_cons hm]
      exact Nat.div_add_mod n 16

theorem prefixValue_padded : prefixValue 0 (padded k n) = n := by
  have hz : ∀ m, prefixValue 0 (List.replicate m (Ascii.ofChar '0')) = 0 := by
    intro m
    induction m
    case zero       => rfl
    case succ m hi => rw [List.replicate_succ, prefixValue_cons (d := 0) (by decide), hi]
  have hr : ∀ m, ∀ b ∈ List.replicate m (Ascii.ofChar '0'), IsDigit b := by
    intro m b hb
    cases List.eq_of_mem_replicate hb
    decide
  rw [padded, List.leftpad, prefixValue_append <| hr _, hz, prefixValue_digits]

-- Bytes as pairs of digits.

def ofBytes (bytes : List (BitVec 8)) : List (BitVec 8) :=
  bytes.flatMap fun b => [digit (b.toNat / 16), digit (b.toNat % 16)]

theorem isDigit_of_mem_ofBytes (h : b ∈ ofBytes s) : IsDigit b := by
  simp only [ofBytes, List.mem_flatMap, List.mem_cons, List.not_mem_nil, or_false] at h
  obtain ⟨c, _, rfl | rfl⟩ := h
  · exact isDigit_digit (by omega)
  · exact isDigit_digit (by omega)

end Hex
