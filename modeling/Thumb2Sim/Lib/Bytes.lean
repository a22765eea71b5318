import Mathlib.Data.BitVec
import Mathlib.Data.Nat.Basic

-- Natural numbers as strings of bytes, least significant byte first.
namespace Bytes

def ofNat : (n : Nat) → Nat → List (BitVec 8)
  | 0,     _ => []
  | n + 1, v => BitVec.ofNat 8 v :: ofNat n (v / 256)

def toNat : List (BitVec 8) → Nat
  | []      => 0
  | b :: bs => b.toNat + 256 * toNat bs

@[simp]
theorem ofNat_length (n v : Nat) : (ofNat n v).length = n := by
  induction n generalizing v <;> simp [ofNat, *]

theorem toNat_lt (bs : List (BitVec 8)) : toNat bs < 256 ^ bs.length := by
  induction bs
  case nil => simp [toNat]
  case cons b bs hi =>
    have := b.isLt
    simp only [toNat, List.length_cons, Nat.pow_succ]
    omega

theorem toNat_ofNat (n v : Nat) : toNat (ofNat n v) = v % 256 ^ n := by
  induction n generalizing v
  case zero => simp [ofNat, toNat, Nat.mod_one]
  case succ n hi =>
    have hp : 256 ^ (n + 1) = 2 ^ 8 * 256 ^ n := Nat.pow_succ'
    rw [ofNat, toNat, hi, BitVec.toNat_ofNat, hp, Nat.mod_mul]
    rfl

theorem ofNat_add (m n v : Nat) : ofNat (m + n) v = ofNat m v ++ ofNat n (v / 256 ^ m) := by
  induction m generalizing v
  case zero => simp [ofNat]
  case succ m hi =>
    rw [Nat.succ_add, ofNat, ofNat, hi, Nat.div_div_eq_div_mul, ← Nat.pow_succ', List.cons_append]

theorem ofNat_mod (n v : Nat) : ofNat n (v % 256 ^ n) = ofNat n v := by
  induction n generalizing v
  case zero => rfl
  case succ n hi =>
    have hb : v % 256 ^ (n + 1) / 256 = v / 256 % 256 ^ n := by
      rw [Nat.pow_succ', Nat.mod_mul_right_div_self]
    have hm : BitVec.ofNat 8 (v % 256 ^ (n + 1)) = BitVec.ofNat 8 v := by
      apply BitVec.eq_of_toNat_eq
      rw [BitVec.toNat_ofNat, BitVec.toNat_ofNat]
      exact Nat.mod_mod_of_dvd _ <| Dvd.intro _ Nat.pow_succ'.symm
    rw [ofNat, ofNat, hb, hi, hm]

theorem ofNat_toNat (bs : List (BitVec 8)) : ofNat bs.length (toNat bs) = bs := by
  induction bs
  case nil          => rfl
  case cons b bs hi =>
    have hb : BitVec.ofNat 8 (b.toNat + 256 * toNat bs) = b := by
      apply BitVec.eq_of_toNat_eq
      have := b.isLt
      rw [BitVec.toNat_ofNat]
      omega
    have hs : (b.toNat + 256 * toNat bs) / 256 = toNat bs := by
      have := b.isLt
      omega
    rw [List.length_cons, toNat, ofNat, hb, hs, hi]

end Bytes
