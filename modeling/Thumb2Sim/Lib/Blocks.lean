import Mathlib.Data.List.Basic
import Mathlib.Data.List.TakeDrop

-- Streams that are consumed in blocks of a fixed size.
namespace Blocks

variable {σ α : Type}

def block (size : Nat) (xs : List α) (i : Nat) : List α :=
  (xs.drop (size * i)).take size

-- The state behind all whole blocks of a stream, and the part of the stream that is left over.

def absorb (size : Nat) (f : σ → List α → σ) (s : σ) (xs : List α) : σ :=
  (List.range (xs.length / size)).foldl (fun s i => f s (block size xs i)) s

def rest (size : Nat) (xs : List α) : List α :=
  xs.drop (size * (xs.length / size))

variable {size : Nat} {f : σ → List α → σ} {s : σ} {xs ys zs : List α}

theorem rest_length : (rest size xs).length = xs.length % size := by
  have := Nat.div_add_mod xs.length size
  rw [rest, List.length_drop]
  omega

theorem rest_length_lt (h : 0 < size) : (rest size xs).length < size :=
  rest_length ▸ Nat.mod_lt _ h

theorem absorb_of_lt (h : xs.length < size) : absorb size f s xs = s := by
  rw [absorb, Nat.div_eq_of_lt h]
  rfl

theorem rest_of_lt (h : xs.length < size) : rest size xs = xs := by
  rw [rest, Nat.div_eq_of_lt h]
  rfl

-- The first block.

theorem block_append_succ (h : ys.length = size) (i : Nat) :
    block size (ys ++ xs) (i + 1) = block size xs i := by
  rw [block, Nat.mul_succ, Nat.add_comm, ← List.drop_drop, List.drop_left' h, block]

theorem length_append_div (hs : 0 < size) (h : ys.length = size) :
    (ys ++ xs).length / size = xs.length / size + 1 := by
  rw [List.length_append, h, Nat.add_comm, Nat.add_div_right _ hs]

theorem absorb_block_append (hs : 0 < size) (h : ys.length = size) :
    absorb size f s (ys ++ xs) = absorb size f (f s ys) xs := by
  have hb : block size (ys ++ xs) 0 = ys := List.take_left' h
  rw [absorb, length_append_div hs h, List.range_succ_eq_map, List.foldl_cons, List.foldl_map, hb]
  simp only [Nat.succ_eq_add_one, block_append_succ h]
  rfl

theorem rest_block_append (hs : 0 < size) (h : ys.length = size) :
    rest size (ys ++ xs) = rest size xs := by
  rw [rest, length_append_div hs h, Nat.mul_succ, Nat.add_comm, ← List.drop_drop,
    List.drop_left' h, rest]

-- Streams are built by putting blocks in front of something that is shorter than a block.
theorem induction_on {motive : List α → Prop} (hs : 0 < size) (xs : List α)
    (short : ∀ xs, xs.length < size → motive xs)
    (append : ∀ ys xs, ys.length = size → motive xs → motive (ys ++ xs)) : motive xs := by
  induction h : xs.length using Nat.strongRecOn generalizing xs
  case ind n hi =>
    by_cases hl : xs.length < size
    case pos => exact short xs hl
    case neg =>
      have ht : (xs.take size).length = size := by
        rw [List.length_take]
        omega
      have hd : (xs.drop size).length < n := by
        rw [List.length_drop]
        omega
      rw [← List.take_append_drop size xs]
      exact append _ _ ht <| hi _ hd _ rfl

-- What has been consumed of a stream is forgotten, apart from the part that is left over.

theorem absorb_append (hs : 0 < size) :
    absorb size f s (xs ++ ys) = absorb size f (absorb size f s xs) (rest size xs ++ ys) := by
  induction xs using induction_on hs generalizing s
  case short xs h        => rw [absorb_of_lt h, rest_of_lt h]
  case append zs xs h hi =>
    rw [List.append_assoc, absorb_block_append hs h, absorb_block_append hs h,
      rest_block_append hs h, hi]

theorem rest_append (hs : 0 < size) : rest size (xs ++ ys) = rest size (rest size xs ++ ys) := by
  induction xs using induction_on hs
  case short xs h        => rw [rest_of_lt h]
  case append zs xs h hi =>
    rw [List.append_assoc, rest_block_append hs h, rest_block_append hs h, hi]

theorem absorb_eq_of_length (hs : 0 < size) (h : xs.length = size) :
    absorb size f s xs = f s xs := by
  have hn : ([] : List α).length < size := hs
  have ha : absorb size f s (xs ++ []) = _ := absorb_block_append hs h
  rwa [List.append_nil, absorb_of_lt hn] at ha

theorem rest_eq_nil (h : size ∣ xs.length) : rest size xs = [] :=
  List.eq_nil_of_length_eq_zero <| rest_length.trans <| Nat.mod_eq_zero_of_dvd h

theorem take_append_rest (size : Nat) (xs : List α) :
    xs.take (size * (xs.length / size)) ++ rest size xs = xs :=
  List.take_append_drop ..

-- What is left over has not been consumed.
theorem absorb_take (hs : 0 < size) :
    absorb size f s (xs.take <| size * (xs.length / size)) = absorb size f s xs := by
  have hl : (xs.take <| size * (xs.length / size)).length = size * (xs.length / size) := by
    rw [List.length_take, Nat.min_eq_left <| Nat.mul_div_le ..]
  conv_rhs => rw [← take_append_rest size xs, absorb_append hs, rest_eq_nil ⟨_, hl⟩,
    List.nil_append, absorb_of_lt <| rest_length_lt hs]

end Blocks
