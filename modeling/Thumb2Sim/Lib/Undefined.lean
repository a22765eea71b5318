import Mathlib.Data.BitVec
import Mathlib.Data.Int.Basic

-- The behaviours that the C standard leaves undefined. A computation that runs into one of them has
-- no result at all: it ends in the error that names the behaviour.
inductive Undefined
  | access
  | index
  | shift
  | division
deriving DecidableEq, Repr

-- The C operators on fixed-width integers that are not defined for all operands. Everything else on
-- unsigned integers (sums, differences, products, bitwise operators) is read modulo `2 ^ w`.
namespace CInt

variable {w : Nat}

-- A shift is defined if its count is neither negative nor reaches the width of the left operand.
def shl (x : BitVec w) (n : Int) : Except Undefined (BitVec w) :=
  if 0 ≤ n ∧ n < w then .ok (x <<< n.toNat) else .error .shift

def shr (x : BitVec w) (n : Int) : Except Undefined (BitVec w) :=
  if 0 ≤ n ∧ n < w then .ok (x >>> n.toNat) else .error .shift

-- The right shift of a signed operand.
def sar (x : BitVec w) (n : Int) : Except Undefined (BitVec w) :=
  if 0 ≤ n ∧ n < w then .ok (x.sshiftRight n.toNat) else .error .shift

-- Signed division is undefined for the divisor zero and if the quotient does not fit.
def sdiv (x y : BitVec w) : Except Undefined (BitVec w) :=
  if y = 0 ∨ (x = BitVec.intMin w ∧ y = -1) then .error .division else .ok (x.sdiv y)

-- The shifts whose counts are in range.

variable {x : BitVec w} {n : Nat}

theorem shl_of_lt (h : n < w) : shl x n = .ok (x <<< n) := by
  simp [shl, h]

theorem shr_of_lt (h : n < w) : shr x n = .ok (x >>> n) := by
  simp [shr, h]

theorem shl_of_le (h : w ≤ n) : shl x n = .error .shift := by
  simp [shl, h]

theorem shr_of_le (h : w ≤ n) : shr x n = .error .shift := by
  simp [shr, h]

end CInt
