import Mathlib.Data.BitVec

-- The shifts of a word, with the number of places to shift by. The last one takes the carry in.
inductive Shift
  | lsl (n : Nat)
  | lsr (n : Nat)
  | asr (n : Nat)
  | ror (n : Nat)
  | rrx
deriving DecidableEq

namespace Shift

variable {w : Nat}

def value (x : BitVec w) (c : Bool) : Shift → BitVec w
  | lsl n => x <<< n
  | lsr n => x >>> n
  | asr n => x.sshiftRight n
  | ror n => x.rotateRight n
  | rrx   => (BitVec.ofBool c).setWidth w <<< (w - 1) ||| x >>> 1

-- The last bit that is shifted out. A shift by zero does not shift anything out, and leaves the
-- carry as it is.
def carryOut (x : BitVec w) (c : Bool) : Shift → Bool
  | lsl n => if n = 0 then c else n ≤ w && x.getLsbD (w - n)
  | lsr n => if n = 0 then c else x.getLsbD (n - 1)
  | asr n => if n = 0 then c else x.getLsbD (min n w - 1)
  | ror n => if n = 0 then c else x.getLsbD ((n - 1) % w)
  | rrx   => x.getLsbD 0

variable {x : BitVec w} {c : Bool} {n : Nat}

theorem carryOut_lsl (h₀ : n ≠ 0) (h : n ≤ w) : (lsl n).carryOut x c = x.getLsbD (w - n) := by
  rw [carryOut, if_neg h₀, decide_eq_true h, Bool.true_and]

theorem carryOut_lsr (h₀ : n ≠ 0) : (lsr n).carryOut x c = x.getLsbD (n - 1) :=
  if_neg h₀

theorem carryOut_asr (h₀ : n ≠ 0) (h : n ≤ w) : (asr n).carryOut x c = x.getLsbD (n - 1) := by
  rw [carryOut, if_neg h₀, Nat.min_eq_left h]

theorem carryOut_ror (h₀ : n ≠ 0) (h : n ≤ w) : (ror n).carryOut x c = x.getLsbD (n - 1) := by
  rw [carryOut, if_neg h₀, Nat.mod_eq_of_lt (by omega)]

end Shift
