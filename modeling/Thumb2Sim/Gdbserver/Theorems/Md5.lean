import Thumb2Sim.Gdbserver.Md5
import Thumb2Sim.Lib.Bits
import Thumb2Sim.Lib.Blocks
import Thumb2Sim.Lib.Md5

namespace Md5Ctx

-- The steps of the rounds follow a pattern. Every step has the variables one place further.

def function (i : Nat) : Word → Word → Word → Word :=
  match i / 16 with
  | 0 => F
  | 1 => G
  | 2 => if i % 2 = 0 then H else H2
  | _ => I

def place (i : Nat) : Nat → Var
  | 0 => match i % 4 with | 0 => .a | 1 => .d | 2 => .c | _ => .b
  | 1 => match i % 4 with | 0 => .b | 1 => .a | 2 => .d | _ => .c
  | 2 => match i % 4 with | 0 => .c | 1 => .b | 2 => .a | _ => .d
  | _ => match i % 4 with | 0 => .d | 1 => .c | 2 => .b | _ => .a

def shift (i : Nat) : Nat :=
  (Md5.shifts <| i / 16).getD (i % 4) 0

def stepAt (i : Nat) : Step where
  f := function i
  a := place i 0
  b := place i 1
  c := place i 2
  d := place i 3
  x := Md5.index i
  t := Md5.constants.getD i 0
  s := shift i

theorem steps_eq : steps = (List.range 64).map stepAt :=
  rfl

theorem function_eq (i : Nat) (x y z : Word) : function i x y z = Md5.mix (i / 16) x y z := by
  unfold function Md5.mix
  match i / 16 with
  | 0 => rfl
  | 1 => rfl
  | 2 =>
    change (if i % 2 = 0 then H else H2) x y z = x ^^^ y ^^^ z
    split
    case isTrue  => rfl
    case isFalse => exact (BitVec.xor_assoc ..).symm
  | _ + 3 => rfl

theorem shift_lt (i : Nat) : shift i < 32 := by
  have h : ∀ l : List Nat, (∀ s ∈ l, s < 32) → l.getD (i % 4) 0 < 32 := by
    intro l hl
    rw [List.getD_eq_getElem?_getD]
    cases hs : l[i % 4]?
    case none   => decide
    case some s => exact hl s <| List.mem_of_getElem? hs
  unfold shift Md5.shifts
  split <;> exact h _ (by decide)

theorem index_lt (i : Nat) : Md5.index i < 16 := by
  unfold Md5.index
  split <;> omega

-- The variables in the order in which the step number `i` takes them.
def view (i : Nat) (vars : Vars) : Md5.State where
  a := (place i 0).get vars
  b := (place i 1).get vars
  c := (place i 2).get vars
  d := (place i 3).get vars

section

variable {ptr data : List Byte} {vars : Vars} {s : Md5.State} {i n : Nat}

theorem rotate_eq (x : Word) (h : n < 32) :
    x <<< n ||| (x &&& 0xffffffff) >>> (32 - n) = x.rotateLeft n := by
  have hx : x &&& 0xffffffff = x := BitVec.and_allOnes
  rw [hx, BitVec.rotateLeft_def, Nat.mod_eq_of_lt h]

theorem view_succ_set (x : Word) : view (i + 1) ((place i 0).set vars x) = {
    a := (place i 3).get vars
    b := x
    c := (place i 1).get vars
    d := (place i 2).get vars
  } := by
  have hi : i % 4 = 0 ∨ i % 4 = 1 ∨ i % 4 = 2 ∨ i % 4 = 3 := by omega
  obtain h | h | h | h := hi
  all_goals
    have h' : (i + 1) % 4 = (i % 4 + 1) % 4 := by omega
    rw [h] at h'
    simp [view, place, h, h', Var.get, Var.set]

-- The words of a block.

theorem words_length (bytes : List Byte) : (Md5.words bytes).length = bytes.length / 4 := by
  rw [Md5.words, List.length_map, List.length_range]

theorem words_getElem? (h : n < data.length / 4) : (Md5.words data)[n]? = some (get data n) := by
  rw [Md5.words, List.getElem?_map, List.getElem?_range h, get, Nat.mul_comm]
  rfl

theorem get_eq (h : 64 ≤ ptr.length) (hn : n < 16) :
    get ptr n = (Md5.words <| ptr.take 64).getD n 0 := by
  have hl : n < (ptr.take 64).length / 4 := by
    rw [List.length_take]
    omega
  have hm : min 4 (64 - n * 4) = 4 := by omega
  rw [List.getD_eq_getElem?_getD, words_getElem? hl, Option.getD_some, get, get, List.drop_take,
    List.take_take, hm]

theorem perform_stepAt (h : 64 ≤ ptr.length) (i : Nat) :
    view (i + 1) ((stepAt i).perform ptr vars) =
      Md5.step (Md5.words <| ptr.take 64) (view i vars) i := by
  rw [Step.perform]
  refine (view_succ_set _).trans ?_
  simp only [stepAt, function_eq, get_eq h (index_lt i), rotate_eq _ (shift_lt i)]
  simp only [Md5.step, shift, view, BitVec.add_assoc]

theorem view_foldl (h : 64 ≤ ptr.length) (n : Nat) :
    view n (((List.range n).map stepAt).foldl (Step.perform ptr) vars) =
      (List.range n).foldl (Md5.step <| Md5.words <| ptr.take 64) vars := by
  induction n
  case zero      => rfl
  case succ n hi =>
    rw [List.range_succ, List.map_append, List.foldl_append, List.foldl_append, ← hi]
    exact perform_stepAt h n

def compress (s : Md5.State) (block : List Byte) : Md5.State :=
  Md5.transform s <| Md5.words block

theorem foldl_steps (h : 64 ≤ ptr.length) : steps.foldl (Step.perform ptr) vars =
    (List.range 64).foldl (Md5.step <| Md5.words <| ptr.take 64) vars := by
  have hv (s : Vars) : view 64 s = s := rfl
  rw [steps_eq, ← hv (List.foldl ..), view_foldl h 64]

-- One pass through the loop of `body`.
theorem body_pass (h : 64 ≤ ptr.length) (size : BitVec 64) : body vars ptr size =
    let vars := compress vars (ptr.take 64)
    if size - 64 = 0 then .ok (vars, ptr.drop 64) else body vars (ptr.drop 64) (size - 64) := by
  rw [body, if_pos h]
  simp only [foldl_steps h, compress, Md5.transform, BitVec.add_comm]

theorem body_eq (vars : Vars) (hn : 0 < n) (hs : 64 * n < 2 ^ 64) (hl : 64 * n ≤ ptr.length) :
    body vars ptr (BitVec.ofNat 64 <| 64 * n) =
      .ok (Blocks.absorb 64 compress vars (ptr.take <| 64 * n), ptr.drop <| 64 * n) := by
  induction n generalizing vars ptr
  case zero      => exact absurd hn (Nat.lt_irrefl 0)
  case succ n hi =>
    have h₆₄ : 64 ≤ ptr.length := by omega
    have hb : (ptr.take 64).length = 64 := by
      rw [List.length_take]
      omega
    have hd : BitVec.ofNat 64 (64 * (n + 1)) - 64 = BitVec.ofNat 64 (64 * n) := by
      apply BitVec.eq_of_toNat_eq
      simp only [BitVec.toNat_sub, BitVec.toNat_ofNat, BitVec.reduceToNat]
      omega
    have ht : ptr.take (64 * (n + 1)) = ptr.take 64 ++ (ptr.drop 64).take (64 * n) := by
      rw [Nat.mul_succ, Nat.add_comm, List.take_add]
    rw [body_pass h₆₄, hd, ht, Blocks.absorb_block_append (by decide) hb, Nat.mul_succ,
      Nat.add_comm (64 * n), ← List.drop_drop]
    cases n
    case zero   =>
      have h₀ : ([] : List Byte).length < 64 := by decide
      simp [Blocks.absorb_of_lt h₀]
    case succ n =>
      have hz : BitVec.ofNat 64 (64 * (n + 1)) ≠ 0 := by
        refine BitVec.toNat_ne_iff_ne.mp ?_
        simp only [BitVec.toNat_ofNat, BitVec.reduceToNat]
        omega
      have hl' : 64 * (n + 1) ≤ (ptr.drop 64).length := by
        rw [List.length_drop]
        omega
      rw [if_neg hz, hi _ (by omega) (by omega) hl']

end

theorem body_buffer (vars : Vars) (buffer : Buffer) : body vars buffer.val 64 =
    .ok (compress vars buffer.val, buffer.val.drop 64) := by
  have h : body vars buffer.val (BitVec.ofNat 64 (64 * 1)) = _ :=
    body_eq vars (by decide) (by decide) buffer.property.ge
  change body vars buffer.val 64 = _ at h
  rwa [List.take_of_length_le buffer.property.le,
    Blocks.absorb_eq_of_length (by decide) buffer.property] at h

-- The digest consumes the padded message in blocks.
theorem words_block {bytes : List Byte} {i : Nat} (h : i < bytes.length / 64) :
    ((Md5.words bytes).drop (16 * i)).take 16 = Md5.words (Blocks.block 64 bytes i) := by
  have hb : (Blocks.block 64 bytes i).length = 64 := by
    rw [Blocks.block, List.length_take, List.length_drop]
    omega
  apply List.ext_getElem?
  intro j
  by_cases hj : j < 16
  case neg =>
    rw [List.getElem?_eq_none, List.getElem?_eq_none]
    · rw [words_length, hb]
      omega
    · rw [List.length_take]
      omega
  case pos =>
    have hm : min 4 (64 - j * 4) = 4 := by omega
    have hi : 64 * i + j * 4 = (16 * i + j) * 4 := by omega
    rw [List.getElem?_take_of_lt hj, List.getElem?_drop, words_getElem? (by omega),
      words_getElem? (by omega), get, get, Blocks.block, List.drop_take, List.take_take, hm,
      List.drop_drop, hi]

theorem run_eq (message : List Byte) :
    Md5.run message = Blocks.absorb 64 compress Md5.init (Md5.pad message) := by
  have hl : (Md5.pad message).length / 4 / 16 = (Md5.pad message).length / 64 :=
    Nat.div_div_eq_div_mul ..
  simp only [Md5.run, words_length, hl, Blocks.absorb]
  refine List.foldl_ext _ _ _ fun s i hi => ?_
  rw [words_block <| List.mem_range.mp hi, compress]

-- The context behind the bytes `xs`.
structure Represents (ctx : Md5Ctx) (xs : List Byte) : Prop where
  lo     : ctx.lo.toNat = xs.length % 2 ^ 29
  hi     : ctx.hi.toNat = xs.length / 2 ^ 29 % 2 ^ 32
  vars   : ctx.vars = Blocks.absorb 64 compress Md5.init xs
  buffer : ctx.buffer.val.take (xs.length % 64) = Blocks.rest 64 xs

variable {ctx : Md5Ctx} {buffer : Buffer} {xs data : List Byte} {s : Md5.State} {offset n : Nat}

theorem Buffer.memcpy_ok (buffer : Buffer) (data : List Byte) (h : offset + n ≤ 64)
    (hn : n ≤ data.length) :
    ∃ buffer', buffer.memcpy offset data n = .ok buffer' ∧
      buffer'.val = buffer.val.take offset ++ data.take n ++ buffer.val.drop (offset + n) :=
  ⟨_, dif_pos ⟨h, hn⟩, rfl⟩

theorem represents_init (buffer : Buffer) : Represents (init buffer) [] where
  lo     := rfl
  hi     := rfl
  vars   := rfl
  buffer := rfl

-- The counters hold the number of bytes modulo `2 ^ 61`.
theorem Represents.count (h : Represents ctx xs) (hn : n < 2 ^ 64) :
    (ctx.count <| BitVec.ofNat 64 n).lo.toNat = (xs.length + n) % 2 ^ 29 ∧
      (ctx.count <| BitVec.ofNat 64 n).hi.toNat = (xs.length + n) / 2 ^ 29 % 2 ^ 32 := by
  have hl : ((ctx.lo.setWidth 64 + BitVec.ofNat 64 n &&& 0x1fffffff).setWidth 32).toNat =
      (xs.length + n) % 2 ^ 29 := by
    have hm : ∀ x : Nat, x &&& 536870911 = x % 2 ^ 29 :=
      fun x => Nat.and_two_pow_sub_one_eq_mod x 29
    simp only [BitVec.toNat_setWidth, BitVec.toNat_and, BitVec.toNat_add, BitVec.toNat_ofNat,
      BitVec.reduceToNat, h.lo, hm]
    omega
  have hs : ((BitVec.ofNat 64 n >>> 29).setWidth 32).toNat = n / 2 ^ 29 % 2 ^ 32 := by
    rw [BitVec.toNat_setWidth, BitVec.toNat_ushiftRight, BitVec.toNat_ofNat,
      Nat.shiftRight_eq_div_pow, Nat.mod_eq_of_lt hn]
  refine ⟨hl, ?_⟩
  have hh := h.hi
  have ho := h.lo
  simp only [Md5Ctx.count, BitVec.toNat_add, hs, BitVec.lt_def, hl]
  split
  case isTrue hc  =>
    rw [BitVec.toNat_add]
    change ((ctx.hi.toNat + 1) % 2 ^ 32 + _) % 2 ^ 32 = _
    omega
  case isFalse hc => omega

theorem updateBlocks_ok (ctx : Md5Ctx) (hv : ctx.vars = s) (hn : data.length < 2 ^ 64) :
    ∃ ctx', ctx.updateBlocks data (BitVec.ofNat 64 data.length) = .ok ctx' ∧ ctx'.lo = ctx.lo ∧
      ctx'.hi = ctx.hi ∧ ctx'.vars = Blocks.absorb 64 compress s data ∧
      ctx'.buffer.val.take (data.length % 64) = Blocks.rest 64 data := by
  have hz : (BitVec.ofNat 64 data.length).toNat = data.length := by
    rw [BitVec.toNat_ofNat, Nat.mod_eq_of_lt hn]
  by_cases hl : data.length < 64
  case pos =>
    have hle : ¬(64 : BitVec 64) ≤ BitVec.ofNat 64 data.length := by
      rw [BitVec.le_def, hz]
      exact Nat.not_le.mpr hl
    have ⟨buffer', hb, hc⟩ := ctx.buffer.memcpy_ok data (show 0 + data.length ≤ 64 by omega) le_rfl
    refine ⟨{ ctx with buffer := buffer' }, ?_, rfl, rfl, ?_, ?_⟩
    · rw [updateBlocks, if_neg hle, hz, hb]
      rfl
    · rw [Blocks.absorb_of_lt hl]
      exact hv
    · rw [hc, Blocks.rest_of_lt hl, Nat.mod_eq_of_lt hl]
      simp
  case neg =>
    have hq := Nat.div_add_mod data.length 64
    have hm : (BitVec.ofNat 64 data.length &&& 0x3f).toNat = data.length % 64 := by
      rw [BitVec.toNat_and, hz]
      exact Nat.and_two_pow_sub_one_eq_mod _ 6
    have hw : BitVec.ofNat 64 data.length &&& ~~~0x3f =
        BitVec.ofNat 64 (64 * (data.length / 64)) := by
      have ha := congrArg BitVec.toNat <| Bits.and_not_add_and (BitVec.ofNat 64 data.length) 0x3f
      rw [BitVec.toNat_add, hm, hz] at ha
      apply BitVec.eq_of_toNat_eq
      have := (BitVec.ofNat 64 data.length &&& ~~~0x3f).isLt
      rw [BitVec.toNat_ofNat]
      omega
    have hle : (64 : BitVec 64) ≤ BitVec.ofNat 64 data.length := by
      rw [BitVec.le_def, hz]
      exact Nat.not_lt.mp hl
    have hb : body s data (BitVec.ofNat 64 <| 64 * (data.length / 64)) = _ :=
      body_eq s (by omega) (by omega) (by omega)
    have hr : (Blocks.rest 64 data).length = data.length % 64 := Blocks.rest_length
    have ⟨buffer', hc, hc'⟩ :=
      ctx.buffer.memcpy_ok _ (show 0 + data.length % 64 ≤ 64 by omega) hr.ge
    rw [Blocks.absorb_take (by decide)] at hb
    refine ⟨{
      ctx with
      vars   := Blocks.absorb 64 compress s data
      buffer := buffer'
    }, ?_, rfl, rfl, rfl, ?_⟩
    · rw [updateBlocks, if_pos hle, hw, hv, hb]
      change ctx.buffer.memcpy 0 (Blocks.rest 64 data)
        (BitVec.ofNat 64 data.length &&& 0x3f).toNat >>= _ = _
      rw [hm, hc]
      rfl
    · rw [hc', ← hr]
      simp

theorem Represents.used_eq (h : Represents ctx xs) : ctx.lo.toNat &&& 0x3f = xs.length % 64 := by
  have hm := Nat.and_two_pow_sub_one_eq_mod ctx.lo.toNat 6
  have := h.lo
  change _ &&& 0x3f = _ at hm
  omega

-- The three ways of `MD5_Update`: there is nothing in the buffer, the data fits into it, or the
-- bytes in the buffer and the first ones of the data are a block.

section

variable (h : Represents ctx xs) (hn : data.length < 2 ^ 64)
include h hn

theorem Represents.count_append : (ctx.count <| BitVec.ofNat 64 data.length).lo.toNat =
      (xs ++ data).length % 2 ^ 29 ∧
    (ctx.count <| BitVec.ofNat 64 data.length).hi.toNat =
      (xs ++ data).length / 2 ^ 29 % 2 ^ 32 := by
  rw [List.length_append]
  exact h.count hn

theorem Represents.update_aligned (h₀ : xs.length % 64 = 0) :
    ∃ ctx', ctx.update data (BitVec.ofNat 64 data.length) = .ok ctx' ∧
      Represents ctx' (xs ++ data) := by
  have ⟨hlo, hhi⟩ := h.count_append hn
  have hr : Blocks.rest 64 xs = [] :=
    List.eq_nil_of_length_eq_zero <| Blocks.rest_length.trans h₀
  have ⟨ctx', hu, hlo', hhi', hv, hb⟩ := 
    updateBlocks_ok (ctx.count <| BitVec.ofNat 64 data.length) h.vars hn
  refine ⟨ctx', ?_, hlo' ▸ hlo, hhi' ▸ hhi, ?_, ?_⟩
  · simp only [Md5Ctx.update, h.used_eq]
    rw [if_neg (not_not.mpr h₀), hu]
  · rw [hv, Blocks.absorb_append (by decide), hr, List.nil_append]
  · have hm : (xs ++ data).length % 64 = data.length % 64 := by
      rw [List.length_append]
      omega
    rw [hm, hb, Blocks.rest_append (by decide), hr, List.nil_append]

theorem Represents.update_short (h₀ : xs.length % 64 ≠ 0)
    (hs : data.length < 64 - xs.length % 64) :
    ∃ ctx', ctx.update data (BitVec.ofNat 64 data.length) = .ok ctx' ∧
      Represents ctx' (xs ++ data) := by
  have ⟨hlo, hhi⟩ := h.count_append hn
  have hl : (Blocks.rest 64 xs ++ data).length = xs.length % 64 + data.length := by
    rw [List.length_append, Blocks.rest_length]
  have hlt : (Blocks.rest 64 xs ++ data).length < 64 := by omega
  have ⟨buffer', hb, hc⟩ := ctx.buffer.memcpy_ok data
    (show xs.length % 64 + data.length ≤ 64 by omega) le_rfl
  refine ⟨{ ctx.count (BitVec.ofNat 64 data.length) with buffer := buffer' }, ?_, hlo, hhi, ?_, ?_⟩
  · simp only [Md5Ctx.update, h.used_eq, BitVec.toNat_ofNat, Nat.mod_eq_of_lt hn]
    rw [if_pos h₀, if_pos hs]
    change ctx.buffer.memcpy _ _ _ >>= _ = _
    rw [hb]
    rfl
  · rw [Blocks.absorb_append (by decide), Blocks.absorb_of_lt hlt]
    exact h.vars
  · have hm : (xs ++ data).length % 64 = (Blocks.rest 64 xs ++ data).length := by
      rw [hl, List.length_append]
      omega
    rw [hm, Blocks.rest_append (by decide), Blocks.rest_of_lt hlt, hc, List.take_length, h.buffer]
    exact List.take_left

theorem Represents.update_block (h₀ : xs.length % 64 ≠ 0)
    (hs : 64 - xs.length % 64 ≤ data.length) :
    ∃ ctx', ctx.update data (BitVec.ofNat 64 data.length) = .ok ctx' ∧
      Represents ctx' (xs ++ data) := by
  have ⟨hlo, hhi⟩ := h.count_append hn
  obtain ⟨available, ha⟩ : ∃ n, n = 64 - xs.length % 64 := ⟨_, rfl⟩
  have hd : (data.drop available).length = data.length - available := List.length_drop
  have ⟨buffer', hb, hc⟩ := ctx.buffer.memcpy_ok data
    (show xs.length % 64 + available ≤ 64 by omega) (ha ▸ hs)
  -- The block.
  have hx : Blocks.rest 64 xs ++ data = buffer'.val ++ data.drop available := by
    have hz : ctx.buffer.val.drop (xs.length % 64 + available) = [] := by
      refine List.drop_eq_nil_of_le ?_
      rw [ctx.buffer.property]
      omega
    rw [hc, hz, h.buffer, List.append_nil, List.append_assoc, List.take_append_drop]
  have hp : body ctx.vars buffer'.val 64 =
      .ok (compress (Blocks.absorb 64 compress Md5.init xs) buffer'.val,
        buffer'.val.drop 64) := by
    rw [body_buffer, h.vars]
  have hsub : BitVec.ofNat 64 data.length - BitVec.ofNat 64 available =
      BitVec.ofNat 64 (data.drop available).length := by
    rw [hd, BitVec.ofNat_sub_ofNat_of_le _ _ (by omega) (by omega)]
  have ⟨ctx', hu, hlo', hhi', hv, hb'⟩ := updateBlocks_ok
    {
      ctx.count (BitVec.ofNat 64 data.length) with
      vars   := compress (Blocks.absorb 64 compress Md5.init xs) buffer'.val
      buffer := buffer'
    } rfl (hd.trans_lt <| Nat.sub_lt_of_lt hn)
  refine ⟨ctx', ?_, hlo' ▸ hlo, hhi' ▸ hhi, ?_, ?_⟩
  · simp only [Md5Ctx.update, h.used_eq, BitVec.toNat_ofNat, Nat.mod_eq_of_lt hn, ← ha]
    rw [if_pos h₀, if_neg (by omega)]
    change ctx.buffer.memcpy _ _ _ >>= _ = _
    rw [hb]
    change body ctx.vars buffer'.val 64 >>= _ = _
    rw [hp, hsub]
    exact hu
  · rw [hv, Blocks.absorb_append (by decide), hx,
      Blocks.absorb_block_append (by decide) buffer'.property]
  · have hm : (xs ++ data).length % 64 = (data.drop available).length % 64 := by
      rw [List.length_append]
      omega
    rw [hm, hb', Blocks.rest_append (by decide), hx,
      Blocks.rest_block_append (by decide) buffer'.property]

theorem Represents.update : ∃ ctx', ctx.update data (BitVec.ofNat 64 data.length) = .ok ctx' ∧
    Represents ctx' (xs ++ data) := by
  by_cases h₀ : xs.length % 64 = 0
  case pos => exact h.update_aligned hn h₀
  case neg =>
    by_cases hs : data.length < 64 - xs.length % 64
    case pos => exact h.update_short hn h₀ hs
    case neg => exact h.update_block hn h₀ <| Nat.not_lt.mp hs

end

-- The end of the message.

theorem Buffer.memset_ok (buffer : Buffer) (value : Byte) (h : offset + n ≤ 64) :
    ∃ buffer', buffer.memset offset value n = .ok buffer' ∧ buffer'.val =
      buffer.val.take offset ++ List.replicate n value ++ buffer.val.drop (offset + n) := by
  have ⟨buffer', hb, hc⟩ := buffer.memcpy_ok (List.replicate n value) h
    List.length_replicate.ge
  refine ⟨buffer', hb, ?_⟩
  rw [hc, List.take_of_length_le List.length_replicate.le]

theorem out_eq (x : Word) : out x = Bytes.ofNat 4 x.toNat := by
  have hb : ∀ n, (x >>> n).setWidth 8 = BitVec.ofNat 8 (x.toNat / 2 ^ n) := by
    intro n
    apply BitVec.eq_of_toNat_eq
    rw [BitVec.toNat_setWidth, BitVec.toNat_ushiftRight, Nat.shiftRight_eq_div_pow,
      BitVec.toNat_ofNat]
  have h₀ : x.setWidth 8 = BitVec.ofNat 8 x.toNat := by
    apply BitVec.eq_of_toNat_eq
    rw [BitVec.toNat_setWidth, BitVec.toNat_ofNat]
  simp only [out, hb, h₀, Bytes.ofNat, Nat.div_div_eq_div_mul]
  rfl

-- The counters are the number of bits of the message.
theorem Represents.counters (h : Represents ctx xs) :
    out (ctx.lo <<< 3) ++ out ctx.hi = Bytes.ofNat 8 (8 * xs.length) := by
  have hlo : (ctx.lo <<< 3).toNat = 8 * xs.length % 256 ^ 4 := by
    have := h.lo
    rw [BitVec.toNat_shiftLeft, Nat.shiftLeft_eq]
    omega
  have hhi : ctx.hi.toNat = 8 * xs.length / 256 ^ 4 % 256 ^ 4 := by
    have := h.hi
    omega
  rw [out_eq, out_eq, hlo, hhi, Bytes.ofNat_mod, Bytes.ofNat_mod, ← Bytes.ofNat_add 4 4]

def zeros (xs : List Byte) : List Byte :=
  List.replicate ((119 - xs.length % 64) % 64) 0

-- Behind the end of the message and its padding, there is room for the counters in a block.
theorem finalBlock_ok (hv : ctx.vars = s)
    (hb : buffer.val.take (xs.length % 64 + 1) = Blocks.rest 64 xs ++ [0x80]) :
    ∃ vars used buffer', ctx.finalBlock (xs.length % 64 + 1) buffer = .ok (vars, used, buffer') ∧
      used ≤ 56 ∧ ∀ tail : List Byte, tail.length = 8 →
        compress vars (buffer'.val.take used ++ List.replicate (56 - used) 0 ++ tail) =
          Blocks.absorb 64 compress s (Blocks.rest 64 xs ++ [0x80] ++ zeros xs ++ tail) := by
  have hr : (Blocks.rest 64 xs ++ [0x80]).length = xs.length % 64 + 1 := by
    rw [List.length_append, Blocks.rest_length]
    rfl
  have hu : xs.length % 64 < 64 := Nat.mod_lt _ (by decide)
  by_cases ha : 64 - (xs.length % 64 + 1) < 8
  case pos =>
    have ⟨buffer', hs, hc⟩ := buffer.memset_ok 0
      (show xs.length % 64 + 1 + (64 - (xs.length % 64 + 1)) ≤ 64 by omega)
    have hd : buffer.val.drop (xs.length % 64 + 1 + (64 - (xs.length % 64 + 1))) = [] := by
      refine List.drop_eq_nil_of_le ?_
      rw [buffer.property]
      omega
    rw [hd, List.append_nil, hb] at hc
    refine ⟨compress ctx.vars buffer'.val, 0, buffer', ?_, by decide,
      fun tail ht => ?_⟩
    · rw [finalBlock, if_pos ha, hs]
      change body ctx.vars buffer'.val 64 >>= _ = _
      rw [body_buffer]
      rfl
    · have hz : zeros xs = List.replicate (64 - (xs.length % 64 + 1)) 0 ++ List.replicate 56 0 := by
        rw [zeros, List.replicate_append_replicate]
        congr 1
        omega
      have hl : (List.replicate 56 0 ++ tail).length = 64 := by
        rw [List.length_append, List.length_replicate, ht]
      rw [hz, ← List.append_assoc, ← hc, List.append_assoc buffer'.val,
        Blocks.absorb_block_append (by decide) buffer'.property,
        Blocks.absorb_eq_of_length (by decide) hl, hv]
      rfl
  case neg =>
    refine ⟨ctx.vars, xs.length % 64 + 1, buffer, if_neg ha, by omega, fun tail ht => ?_⟩
    have hz : zeros xs = List.replicate (56 - (xs.length % 64 + 1)) 0 := by
      rw [zeros]
      congr 1
      omega
    have hl : (Blocks.rest 64 xs ++ [0x80] ++ zeros xs ++ tail).length = 64 := by
      rw [List.length_append, List.length_append, hr, hz, List.length_replicate, ht]
      omega
    rw [Blocks.absorb_eq_of_length (by decide) hl, hz, hb, hv]

theorem toList_digest (message : List Byte) : (Md5.digest message).toList =
    out (Md5.run message).a ++ out (Md5.run message).b ++ out (Md5.run message).c ++
      out (Md5.run message).d := by
  have hs : ∀ (x : Word) (n : Nat), x.extractLsb' n 8 = (x >>> n).setWidth 8 := by
    intro x n
    apply BitVec.eq_of_toNat_eq
    rw [BitVec.extractLsb'_toNat, BitVec.toNat_setWidth, BitVec.toNat_ushiftRight]
  rw [Md5.digest, Vector.toList_ofFn]
  simp only [hs]
  rfl

theorem Represents.final (h : Represents ctx xs) :
    ctx.final = .ok (Md5.digest xs).toList := by
  have hr : (Blocks.rest 64 xs).length = xs.length % 64 := Blocks.rest_length
  have ⟨buffer₁, h₁, hc₁⟩ := ctx.buffer.memcpy_ok [0x80]
    (show xs.length % 64 + 1 ≤ 64 by omega) le_rfl
  have hb : buffer₁.val.take (xs.length % 64 + 1) = Blocks.rest 64 xs ++ [0x80] := by
    rw [hc₁, h.buffer]
    refine List.take_left' ?_
    rw [List.length_append, hr]
    rfl
  have ⟨vars, used, buffer₂, h₂, hu, hc⟩ := finalBlock_ok h.vars hb
  have ⟨buffer₃, h₃, hc₃⟩ := buffer₂.memset_ok 0
    (show used + (64 - used - 8) ≤ 64 by omega)
  have ⟨buffer₄, h₄, hc₄⟩ := buffer₃.memcpy_ok (out <| ctx.lo <<< 3)
    (show 56 + 4 ≤ 64 by decide) le_rfl
  have ⟨buffer₅, h₅, hc₅⟩ := buffer₄.memcpy_ok (out ctx.hi)
    (show 60 + 4 ≤ 64 by decide) le_rfl
  have hx : buffer₅.val = buffer₂.val.take used ++ List.replicate (56 - used) 0 ++
      Bytes.ofNat 8 (8 * xs.length) := by
    have hl : (buffer₂.val.take used ++ List.replicate (56 - used) 0).length = 56 := by
      rw [List.length_append, List.length_take, List.length_replicate, buffer₂.property]
      omega
    have hz : 64 - used - 8 = 56 - used := by omega
    have ht₃ : buffer₃.val.take 56 = buffer₂.val.take used ++ List.replicate (56 - used) 0 := by
      rw [hc₃, hz]
      exact List.take_left' hl
    have ht₄ : buffer₄.val.take 60 = buffer₃.val.take 56 ++ out (ctx.lo <<< 3) := by
      rw [hc₄]
      refine List.take_left' ?_
      rw [ht₃, List.length_append, hl]
      rfl
    have hd₄ : buffer₄.val.drop 64 = [] := List.drop_eq_nil_of_le buffer₄.property.le
    rw [hc₅, hd₄, List.append_nil, ht₄, ht₃, List.append_assoc _ (out _), ← h.counters]
    rfl
  have hd : compress vars buffer₅.val = Md5.run xs := by
    rw [hx, hc _ (Bytes.ofNat_length ..), run_eq, Md5.pad]
    simp only [List.append_assoc]
    exact (Blocks.absorb_append (by decide)).symm
  simp only [Md5Ctx.final, h.used_eq, h₁, h₂, h₃, h₄, h₅, bind, Except.bind, body_buffer, hd,
    toList_digest]
  rfl

theorem Represents.updates {chunks : List (List Byte)} (h : Represents ctx xs)
    (hn : ∀ data ∈ chunks, data.length < 2 ^ 64) :
    ∃ ctx', chunks.foldlM (fun ctx data => ctx.update data (BitVec.ofNat 64 data.length)) ctx =
      .ok ctx' ∧ Represents ctx' (xs ++ chunks.flatten) := by
  induction chunks generalizing ctx xs
  case nil => exact ⟨ctx, rfl, by rwa [List.flatten_nil, List.append_nil]⟩
  case cons data chunks hi =>
    have ⟨hd, hc⟩ := List.forall_mem_cons.mp hn
    have ⟨ctx₁, h₁, hr₁⟩ := h.update hd
    have ⟨ctx₂, h₂, hr₂⟩ := hi hr₁ hc
    refine ⟨ctx₂, ?_, ?_⟩
    · rw [List.foldlM_cons, h₁]
      exact h₂
    · rwa [List.flatten_cons, ← List.append_assoc]

-- However the message is cut into chunks, and whatever the buffer holds at first, the result is the
-- digest of the message. No access leaves the buffer or the data.
theorem hash_eq (buffer : Buffer) {chunks : List (List Byte)}
    (h : ∀ data ∈ chunks, data.length < 2 ^ 64) :
    hash buffer chunks = .ok (Md5.digest chunks.flatten).toList := by
  have ⟨ctx, hc, hr⟩ := (represents_init buffer).updates h
  rw [hash, hc]
  exact hr.final

-- A chunk that is shorter than the others' blocks, an empty one, and one that completes a block.
theorem hash_eq_three :
    hash ⟨List.replicate 64 0xff, rfl⟩ [[0x61, 0x62], [], List.replicate 70 0x63] =
      .ok (Md5.digest <| [0x61, 0x62] ++ List.replicate 70 0x63).toList :=
  hash_eq _ (by decide)

end Md5Ctx
