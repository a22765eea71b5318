import Thumb2Sim.Lib.Hex

-- The strings of C, which end at the first NUL byte.
namespace CString

-- The string at the beginning of an array.
def terminated (data : List (BitVec 8)) : List (BitVec 8) :=
  data.takeWhile (· ≠ 0)

def stripHexPrefix : List (BitVec 8) → List (BitVec 8)
  | 0x30 :: 0x78 :: s => s
  | 0x30 :: 0x58 :: s => s
  | s                 => s

-- The function `strtoll` for the base 16. Numbers that are too large are replaced by the nearest
-- one.
def strtoll16 (s : List (BitVec 8)) : Int :=
  let (negative, s) := Ascii.stripSign <| s.dropWhile Ascii.isSpace
  let n := Hex.prefixValue 0 <| stripHexPrefix s
  if negative then max (-2 ^ 63) (-n) else min (2 ^ 63 - 1) n

variable {s t : List (BitVec 8)} {b : BitVec 8} {n : Nat}

theorem terminated_append (h : 0 ∉ s) :
    terminated (s ++ t) = s ++ terminated t := by
  unfold terminated
  exact List.takeWhile_append_of_pos fun b hb => decide_eq_true fun h₀ => h <| h₀ ▸ hb

theorem terminated_prefix : terminated s <+: s :=
  List.takeWhile_prefix _

theorem zero_notMem_terminated : 0 ∉ terminated s := by
  intro h
  simpa using List.mem_takeWhile_imp h

-- The part of a string in front of the first occurrence of a byte.

theorem takeWhile_ne_of_prefix (h : b ∉ s) (hp : s ++ [b] <+: t) : t.takeWhile (· ≠ b) = s := by
  obtain ⟨u, rfl⟩ := hp
  have hs : ∀ c ∈ s, decide (c ≠ b) := fun c hc => decide_eq_true fun hb => h <| hb ▸ hc
  rw [List.append_assoc, List.takeWhile_append_of_pos hs]
  simp

theorem dropWhile_ne_append (h : b ∉ s) :
    (s ++ b :: t).dropWhile (· ≠ b) = b :: t := by
  have hs : ∀ c ∈ s, decide (c ≠ b) := fun c hc => decide_eq_true fun hb => h <| hb ▸ hc
  rw [List.dropWhile_append_of_pos hs]
  simp

theorem takeWhile_ne_prefix (h : b ∈ s) : s.takeWhile (· ≠ b) ++ [b] <+: s := by
  induction s
  case nil => cases h
  case cons c s hi =>
    by_cases hc : c = b
    case pos => subst hc; simp
    case neg =>
      rw [List.takeWhile_cons_of_pos (by simpa using hc), List.cons_append]
      exact List.cons_prefix_cons.mpr ⟨rfl, hi <| (List.mem_cons.mp h).resolve_left <| Ne.symm hc⟩

theorem stripHexPrefix_of_isDigit (h : ∀ b ∈ s, Hex.IsDigit b) : stripHexPrefix s = s := by
  unfold stripHexPrefix
  split
  case h_1 => exact absurd (h 0x78 <| by simp) (by decide)
  case h_2 => exact absurd (h 0x58 <| by simp) (by decide)
  case h_3 => rfl

theorem strtoll16_digits (h : n < 2 ^ 63) : strtoll16 (Hex.digits n) = n := by
  have hd : ∀ b ∈ Hex.digits n, Hex.IsDigit b := fun _ => Hex.isDigit_of_mem_digits
  rw [strtoll16, Hex.dropWhile_of_isDigit (fun _ => Hex.not_isSpace_of_isDigit) hd,
    Hex.stripSign_of_isDigit hd]
  simp only [stripHexPrefix_of_isDigit hd, Hex.prefixValue_digits]
  rw [if_neg Bool.false_ne_true]
  omega

end CString
