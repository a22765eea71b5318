import Mathlib.Data.List.FinRange
import Mathlib.Tactic.IntervalCases
import Thumb2Sim.AddressSpace.Theorems.Words
import Thumb2Sim.Emulation.LoadStore
import Thumb2Sim.Emulation.Theorems.Evaluation
import Thumb2Sim.Execution.Theorems.Step
import Thumb2Sim.Lib.Sort

open Program Emu

-- The registers of a list, in ascending order.
def regsOf (registers : BitVec 16) : List (Fin 16) :=
  (List.finRange 16).filter fun r => registers.getLsbD r

-- The number of registers of a list that are smaller than a given one.
def rank (registers : BitVec 16) (r : Fin 16) : Nat :=
  (List.finRange 16).countP fun i : Fin 16 => registers.getLsbD i && i < r

-- The contents of registers as they lie in memory.
def wordBytes (f : Fin 16 → Word) (rs : List (Fin 16)) : List Byte :=
  rs.flatMap fun r => Bytes.ofNat 4 (f r).toNat

-- The word that is loaded into a register. PC gets an even address.
def loadedWord (f : Fin 16 → Word) (r : Fin 16) : Word :=
  if r = 15 then f r &&& ~~~1 else f r

namespace InsnEmuCtx

variable {U : Type} (s : InsnEmuCtx U)

-- The state with words in the given registers. PC does not advance if it is one of them.
def loaded (f : Fin 16 → Word) (rs : List (Fin 16)) : InsnEmuCtx U :=
  { s with
    emuCtx.cpu.reg := fun r => if r ∈ rs then loadedWord f r else s.emuCtx.cpu.reg r
    advancePc      := s.advancePc && 15 ∉ rs
  }

-- The registers of the list and SP are what they are in `s`.
def restored (t s : InsnEmuCtx U) (registers : BitVec 16) : InsnEmuCtx U :=
  { t with emuCtx.cpu.reg := fun r =>
      if registers.getLsbD r ∨ r = 13 then s.emuCtx.cpu.reg r else t.emuCtx.cpu.reg r }

-- The same for all but LR. Its old content is where the program goes on.
def returned (t s : InsnEmuCtx U) (registers : BitVec 16) : InsnEmuCtx U :=
  { t with
    emuCtx.cpu.reg := fun r =>
      if r = 15 then
        s.emuCtx.cpu.reg 14 &&& ~~~1
      else if registers.getLsbD r ∧ r ≠ 14 ∨ r = 13 then
        s.emuCtx.cpu.reg r
      else
        t.emuCtx.cpu.reg r
    advancePc      := false
  }

variable {s} {f : Fin 16 → Word} {rs : List (Fin 16)} {r : Fin 16}

theorem loaded_nil : s.loaded f [] = s := by
  simp [loaded]

theorem loaded_of_mem (h : 15 ∈ rs) : { s with advancePc := false }.loaded f rs = s.loaded f rs := by
  simp [loaded, h]

theorem loaded_setReg {b : Fin 16} {v : Word} {reg : Fin 16 → Word} {a : Bool}
    (hr : ∀ r, (if r = b then v else if r ∈ rs then loadedWord f r else s.emuCtx.cpu.reg r) = reg r)
    (ha : (s.advancePc && decide (15 ∉ rs)) = a) :
    (s.loaded f rs).setReg b v = { s with emuCtx.cpu.reg := reg, advancePc := a } := by
  have hf : Function.update (fun r => if r ∈ rs then loadedWord f r else s.emuCtx.cpu.reg r) b v =
      reg := by
    funext r
    rw [← hr r, Function.update_apply]
  rw [← hf, ← ha]
  rfl

theorem loaded_cons : { s.setReg r (loadedWord f r) with advancePc := s.advancePc && r ≠ 15 }.loaded
    f rs = s.loaded f (r :: rs) := by
  have hr : (fun i => if i ∈ rs then loadedWord f i else
      Function.update s.emuCtx.cpu.reg r (loadedWord f r) i) =
      fun i => if i ∈ r :: rs then loadedWord f i else s.emuCtx.cpu.reg i := by
    funext i
    by_cases hi : i = r
    case pos => subst hi; simp
    case neg => simp [hi]
  have ha : ((s.advancePc && decide (r ≠ 15)) && decide (15 ∉ rs)) =
      (s.advancePc && decide (15 ∉ r :: rs)) := by
    simp [eq_comm, Bool.and_assoc]
  simp only [loaded, setReg_reg, hr, ha]
  rfl

end InsnEmuCtx

section Words

variable {f : Fin 16 → Word} {rs rs' : List (Fin 16)} {r : Fin 16} {registers : BitVec 16} {k : Nat}

@[simp]
theorem wordBytes_cons : wordBytes f (r :: rs) = Bytes.ofNat 4 (f r).toNat ++ wordBytes f rs := by
  simp [wordBytes]

@[simp]
theorem wordBytes_singleton : wordBytes f [r] = Bytes.ofNat 4 (f r).toNat := by
  simp [wordBytes]

@[simp]
theorem wordBytes_append : wordBytes f (rs ++ rs') = wordBytes f rs ++ wordBytes f rs' := by
  simp [wordBytes]

@[simp]
theorem wordBytes_length : (wordBytes f rs).length = 4 * rs.length := by
  induction rs
  case nil => rfl
  case cons r rs hi => rw [wordBytes_cons, List.length_append, Bytes.ofNat_length, hi,
    List.length_cons]; omega

theorem mem_regsOf : r ∈ regsOf registers ↔ registers.getLsbD r := by
  simp [regsOf]

-- The rank of a register is its place in the ascending order.
theorem regsOf_rank (h : registers.getLsbD r) : (regsOf registers)[rank registers r]? = some r := by
  have hc : rank registers r = (regsOf registers).countP (· < r) := by
    rw [rank, regsOf, List.countP_filter]
    exact List.countP_congr fun i _ => by simp [and_comm]
  rw [hc]
  exact getElem?_countP_lt ((List.pairwise_lt_finRange 16).filter _) (mem_regsOf.mpr h)

-- The words that are stored are read again.
theorem read32_overwrite {as : Addrspace} {memory : HostMemory} {slice : AddressSlice} {addr : Word}
    (h : LiesIn as memory slice addr rs.length) (hk : rs[k]? = some r) :
    as.read32 (memory.overwrite (slice.ptr addr) (wordBytes f rs))
      (addr + 4 * BitVec.ofNat 32 k) = .ok (f r) := by
  obtain ⟨hl, rfl⟩ := List.getElem?_eq_some_iff.mp hk
  have hs : rs = rs.take k ++ [rs[k]] ++ rs.drop (k + 1) := by simp
  have hw : wordBytes f rs = wordBytes f (rs.take k) ++ Bytes.ofNat 4 (f rs[k]).toNat ++
      wordBytes f (rs.drop (k + 1)) := by
    rw [← wordBytes_singleton, ← wordBytes_append, ← wordBytes_append, ← hs]
  have hn : (wordBytes f (rs.take k)).length = 4 * k := by simp; omega
  have hv : memory.Valid (slice.ptr addr) (wordBytes f rs).length := by
    rw [wordBytes_length]
    exact h.valid (Nat.zero_lt_of_lt hl)
  have hm := Heap.load_overwrite_mid (hw ▸ hv)
  rw [← hw, hn, Bytes.ofNat_length] at hm
  exact (h.overwrite hv).read32_eq hl hm

end Words

namespace Emulation

section Loops

variable {U : Type} {s s' : InsnEmuCtx U} {slice : AddressSlice} {addr v : Word} {rs : List (Fin 16)}
  {registers : BitVec 16} {memory : HostMemory} {inc : Bool} {l : List Nat}

theorem range_filter :
    (List.range 16).filter (registers.getLsbD ·) = (regsOf registers).map Fin.val := by
  rw [← List.map_coe_finRange_eq_range, List.filter_map, regsOf]
  rfl

theorem storeRegistersLoop_filter :
    storeRegistersLoop (U := U) registers inc (l.filter (registers.getLsbD ·)) =
      storeRegistersLoop registers inc l := by
  funext addr
  induction l generalizing addr
  case nil => rfl
  case cons r l hi =>
    by_cases h : registers.getLsbD r <;> simp [h, storeRegistersLoop, hi]

theorem storeRegistersLoop_up (hr : ∀ r ∈ rs, registers.getLsbD r)
    (h : LiesIn s.emuCtx.addrSpace s.emuCtx.memory slice addr rs.length) :
    storeRegistersLoop registers true (rs.map Fin.val) addr s =
      .ok (addr + 4 * BitVec.ofNat 32 rs.length, s.setMemory <|
        s.emuCtx.memory.overwrite (slice.ptr addr) <| wordBytes s.emuCtx.cpu.reg rs) := by
  induction rs generalizing addr s
  case nil =>
    rw [wordBytes, List.flatMap_nil, Heap.overwrite_nil]
    simp [storeRegistersLoop]
    rfl
  case cons r rs hi =>
    rw [List.forall_mem_cons] at hr
    have hb := Bytes.ofNat_length 4 (s.emuCtx.cpu.reg r).toNat
    have hv : s.emuCtx.memory.Valid (slice.ptr addr)
        (Bytes.ofNat 4 (s.emuCtx.cpu.reg r).toNat).length := by
      rw [hb]
      exact h.valid_word (Nat.succ_pos rs.length)
    have hg : getReg (BitVec.ofNat 8 r) s = .ok (s.emuCtx.cpu.reg r, s) := getReg_eq
    have hw := write32_ok <| h.write32_head (v := s.emuCtx.cpu.reg r)
    have hv' : s.emuCtx.memory.Valid (slice.ptr addr) (4 * (rs.length + 1)) :=
      h.valid (Nat.succ_pos rs.length)
    rw [List.map_cons, storeRegistersLoop, if_pos hr.left]
    simp only [if_true]
    rw [bind_of_ok hg, bind_of_ok hw, hi hr.right <| h.tail.overwrite hv, List.length_cons,
      LiesIn.addr_succ, h.ptr_add_four, wordBytes_cons, Heap.overwrite_append, hb]
    · rfl
    · rwa [hb, wordBytes_length, Nat.add_comm]

-- From the last register to the first one, each word below the one before.
theorem storeRegistersLoop_down (hr : ∀ r ∈ rs, registers.getLsbD r)
    (h : LiesIn s.emuCtx.addrSpace s.emuCtx.memory slice addr rs.length) :
    storeRegistersLoop registers false (rs.reverse.map Fin.val)
        (addr + 4 * BitVec.ofNat 32 rs.length) s =
      .ok (addr, s.setMemory <|
        s.emuCtx.memory.overwrite (slice.ptr addr) <| wordBytes s.emuCtx.cpu.reg rs) := by
  induction rs using List.reverseRecOn generalizing s
  case nil =>
    rw [wordBytes, List.flatMap_nil, Heap.overwrite_nil, List.length_nil, LiesIn.addr_zero]
    rfl
  case append_singleton rs r hi =>
    rw [List.forall_mem_append, List.forall_mem_singleton] at hr
    rw [List.length_append, List.length_singleton] at h ⊢
    have hb := Bytes.ofNat_length 4 (s.emuCtx.cpu.reg r).toNat
    have hv : s.emuCtx.memory.Valid ((slice.ptr addr).advance (4 * rs.length))
        (Bytes.ofNat 4 (s.emuCtx.cpu.reg r).toNat).length := by
      rw [hb]
      exact h.valid_word (Nat.lt_succ_self rs.length)
    have hg : getReg (BitVec.ofNat 8 r) s = .ok (s.emuCtx.cpu.reg r, s) := getReg_eq
    have hw := write32_ok <| h.write32_eq (v := s.emuCtx.cpu.reg r) (Nat.lt_succ_self rs.length)
    have hv' := h.valid (Nat.succ_pos rs.length)
    have ha : addr + 4 * BitVec.ofNat 32 (rs.length + 1) - 4 =
        addr + 4 * BitVec.ofNat 32 rs.length := by
      rw [LiesIn.addr_succ, BitVec.add_assoc, BitVec.add_comm 4, ← BitVec.add_assoc,
        BitVec.add_sub_cancel]
    rw [List.reverse_append, List.reverse_singleton, List.singleton_append, List.map_cons,
      storeRegistersLoop, if_pos hr.right]
    simp only [Bool.false_eq_true, if_false]
    rw [ha, bind_of_ok hg, bind_of_ok hw, hi hr.left <| h.init.overwrite hv, wordBytes_append,
      wordBytes_singleton, Heap.overwrite_append', wordBytes_length]
    · rfl
    · rwa [hb, wordBytes_length]

theorem loadRegistersLoop_filter :
    loadRegistersLoop (U := U) registers (l.filter (registers.getLsbD ·)) =
      loadRegistersLoop registers l := by
  funext addr
  induction l generalizing addr
  case nil => rfl
  case cons r l hi =>
    by_cases h : registers.getLsbD r <;> simp [h, loadRegistersLoop, hi]

-- One round of the loop for a register of the list.
theorem loadRegistersLoop_cons {r : Fin 16} (hr : registers.getLsbD r) :
    loadRegistersLoop registers (r :: l) addr s =
      s.emuCtx.addrSpace.read32 s.emuCtx.memory addr >>= fun v =>
        loadRegistersLoop registers l (addr + 4) { s.setReg r (if r = 15 then v &&& ~~~1 else v) with
          advancePc := s.advancePc && r ≠ 15 } := by
  rw [loadRegistersLoop, if_pos hr]
  by_cases hp : r = 15
  case pos =>
    subst hp
    let t := { s with advancePc := false }
    have ha : setAdvancePc false s = .ok ((), t) := rfl
    rw [if_neg (by decide), bind_of_ok ha, read32, load_bind]
    refine bind_congr fun v => ?_
    have hs : setReg (BitVec.ofNat 8 (15 : Fin 16)) (v &&& ~~~1) t =
      .ok ((), t.setReg 15 (v &&& ~~~1)) := setReg_eq
    rw [bind_of_ok hs]
    simp only [if_true, ne_eq, not_true_eq_false, decide_false, Bool.and_false]
    rfl
  case neg =>
    have hn : (r : Nat) ≠ regPc.toNat := fun h => hp <| Fin.ext h
    rw [if_pos hn, read32, load_bind]
    refine bind_congr fun v => ?_
    have hs : setReg (BitVec.ofNat 8 r) v s = .ok ((), s.setReg r v) := setReg_eq
    rw [bind_of_ok hs]
    simp only [hp, if_false, ne_eq, not_false_eq_true, decide_true, Bool.and_true]
    rfl

theorem loadRegistersLoop_eq {f : Fin 16 → Word} (hr : ∀ r ∈ rs, registers.getLsbD r)
    (h : ∀ k r, rs[k]? = some r → s.emuCtx.addrSpace.read32 s.emuCtx.memory
      (addr + 4 * BitVec.ofNat 32 k) = .ok (f r)) :
    loadRegistersLoop registers (rs.map Fin.val) addr s =
      .ok (addr + 4 * BitVec.ofNat 32 rs.length, s.loaded f rs) := by
  induction rs generalizing addr s
  case nil =>
    rw [InsnEmuCtx.loaded_nil, List.length_nil, LiesIn.addr_zero]
    rfl
  case cons r rs hi =>
    rw [List.forall_mem_cons] at hr
    have h₀ := h 0 r rfl
    rw [LiesIn.addr_zero] at h₀
    have h₁ : ∀ k r', rs[k]? = some r' → s.emuCtx.addrSpace.read32 s.emuCtx.memory
        (addr + 4 + 4 * BitVec.ofNat 32 k) = .ok (f r') := by
      intro k r' hk
      rw [← LiesIn.addr_succ]
      exact h (k + 1) r' hk
    rw [List.map_cons, loadRegistersLoop_cons hr.left, h₀, List.length_cons, LiesIn.addr_succ,
      ← InsnEmuCtx.loaded_cons]
    exact hi hr.right h₁

-- The words are there if the loop ends.
theorem loadRegistersLoop_words {addr' : Word} (hr : ∀ r ∈ rs, registers.getLsbD r) (hn : rs.Nodup)
    (h : loadRegistersLoop registers (rs.map Fin.val) addr s = .ok (addr', s')) :
    ∃ f : Fin 16 → Word, ∀ k r, rs[k]? = some r → s.emuCtx.addrSpace.read32 s.emuCtx.memory
      (addr + 4 * BitVec.ofNat 32 k) = .ok (f r) := by
  induction rs generalizing addr s
  case nil => exact ⟨fun _ => 0, fun k r hk => by simp at hk⟩
  case cons r rs hi =>
    rw [List.forall_mem_cons] at hr
    have ⟨hm, hn⟩ := List.nodup_cons.mp hn
    rw [List.map_cons, loadRegistersLoop_cons hr.left] at h
    cases hv : s.emuCtx.addrSpace.read32 s.emuCtx.memory addr <;> rw [hv] at h
    case error => cases h
    case ok v =>
      obtain ⟨f, hf⟩ := hi hr.right hn h
      refine ⟨Function.update f r v, fun k r' hk => ?_⟩
      cases k
      case zero =>
        cases hk
        rw [LiesIn.addr_zero, Function.update_self]
        exact hv
      case succ k =>
        have hr' : r' ≠ r := fun he => hm <| he ▸ List.mem_of_getElem? hk
        rw [LiesIn.addr_succ, Function.update_of_ne hr']
        exact hf k r' hk

end Loops

-- The address of the first word.
def lowest (inc : Bool) (base : Word) (registers : BitVec 16) : Word :=
  if inc then base else base - 4 * BitVec.ofNat 32 (regsOf registers).length

section Registers

variable {U : Type} {s s' : InsnEmuCtx U} {slice : AddressSlice} {registers : BitVec 16} {b : Fin 16}
  {inc wb : Bool} {f : Fin 16 → Word}

theorem storeRegisters_eq (h : LiesIn s.emuCtx.addrSpace s.emuCtx.memory slice
    (lowest inc (s.emuCtx.cpu.reg b) registers) (regsOf registers).length) :
    storeRegisters (regNo b) registers inc wb s = .ok ((),
      let n := 4 * BitVec.ofNat 32 (regsOf registers).length
      let t := s.setMemory <| s.emuCtx.memory.overwrite
        (slice.ptr <| lowest inc (s.emuCtx.cpu.reg b) registers) <|
        wordBytes s.emuCtx.cpu.reg (regsOf registers)
      if wb then
        t.setReg b (if inc then s.emuCtx.cpu.reg b + n else s.emuCtx.cpu.reg b - n)
      else
        t) := by
  have hr : ∀ r ∈ regsOf registers, registers.getLsbD r := fun _ => mem_regsOf.mp
  rw [storeRegisters, bind_of_ok getReg_eq]
  cases inc
  case true =>
    have hl := storeRegistersLoop_up hr h
    rw [← range_filter, storeRegistersLoop_filter] at hl
    simp only [lowest, if_true] at hl ⊢
    rw [bind_of_ok hl]
    cases wb
    case true => exact setReg_eq
    case false => rfl
  case false =>
    have hl := storeRegistersLoop_down hr h
    rw [List.map_reverse, ← range_filter, ← List.filter_reverse, storeRegistersLoop_filter] at hl
    simp only [lowest, BitVec.sub_add_cancel, Bool.false_eq_true, if_false] at hl ⊢
    rw [bind_of_ok hl]
    cases wb
    case true => exact setReg_eq
    case false => rfl

theorem loadRegisters_eq
    (h : ∀ k r, (regsOf registers)[k]? = some r → s.emuCtx.addrSpace.read32 s.emuCtx.memory
      (s.emuCtx.cpu.reg b + 4 * BitVec.ofNat 32 k) = .ok (f r)) :
    loadRegisters (regNo b) registers wb s = .ok ((),
      let t := s.loaded f (regsOf registers)
      if wb then
        t.setReg b (s.emuCtx.cpu.reg b + 4 * BitVec.ofNat 32 (regsOf registers).length)
      else
        t) := by
  have hl := loadRegistersLoop_eq (fun _ => mem_regsOf.mp) h
  rw [← range_filter, loadRegistersLoop_filter] at hl
  rw [loadRegisters, bind_of_ok getReg_eq, bind_of_ok hl]
  cases wb
  case true => exact setReg_eq
  case false => rfl

-- The registers lie in memory in ascending order.
structure Stores (slice : AddressSlice) (registers : BitVec 16) (b : Fin 16) (inc wb : Bool)
    (s s' : InsnEmuCtx U) : Prop where
  word  : ∀ r : Fin 16, registers.getLsbD r → s'.emuCtx.addrSpace.read32 s'.emuCtx.memory
    (lowest inc (s.emuCtx.cpu.reg b) registers + 4 * BitVec.ofNat 32 (rank registers r)) =
      .ok (s.emuCtx.cpu.reg r)
  cell  : ∀ q, ¬Heap.InRange (slice.ptr <| lowest inc (s.emuCtx.cpu.reg b) registers)
    (4 * (regsOf registers).length) q → s'.emuCtx.memory.cell q = s.emuCtx.memory.cell q
  state : s' =
    let n := 4 * BitVec.ofNat 32 (regsOf registers).length
    let t := s.setMemory s'.emuCtx.memory
    if wb then
      t.setReg b (if inc then s.emuCtx.cpu.reg b + n else s.emuCtx.cpu.reg b - n)
    else
      t

theorem storeRegisters_stores (h : LiesIn s.emuCtx.addrSpace s.emuCtx.memory slice
    (lowest inc (s.emuCtx.cpu.reg b) registers) (regsOf registers).length) :
    ∃ s', storeRegisters (regNo b) registers inc wb s = .ok ((), s') ∧
      Stores slice registers b inc wb s s' := by
  refine ⟨_, storeRegisters_eq h, ?_⟩
  set memory := s.emuCtx.memory.overwrite (slice.ptr <| lowest inc (s.emuCtx.cpu.reg b) registers) <|
    wordBytes s.emuCtx.cpu.reg (regsOf registers) with hm
  have hc : ∀ q, ¬Heap.InRange (slice.ptr <| lowest inc (s.emuCtx.cpu.reg b) registers)
      (4 * (regsOf registers).length) q → memory.cell q = s.emuCtx.memory.cell q := by
    intro q hq
    by_cases hn : regsOf registers = []
    case pos => rw [hm, hn, wordBytes, List.flatMap_nil, Heap.overwrite_nil]
    case neg =>
      refine Heap.overwrite_cell_of_not_inRange ?_ ?_
      · rw [wordBytes_length]
        exact h.valid <| List.length_pos_iff.mpr hn
      · rwa [wordBytes_length]
  cases wb
  case true => exact ⟨fun r hr => read32_overwrite h <| regsOf_rank hr, hc, rfl⟩
  case false => exact ⟨fun r hr => read32_overwrite h <| regsOf_rank hr, hc, rfl⟩

end Registers

-- PUSH and POP, each with its arguments.

inductive PushInsn
  | pushT1 (registerList : Byte) (M : Bool)
  | pushT2 (registerList : BitVec 16) (M : Bool)

inductive PopInsn
  | popT1 (registerList : Byte) (P : Bool)
  | popT2 (registerList : BitVec 16) (P M : Bool)

section

variable {U : Type}

namespace PushInsn

def handler : PushInsn → Emu U Unit
  | pushT1 registerList M => i16PushT1 registerList M
  | pushT2 registerList M => i32PushT2 registerList M

-- The registers that are stored.
def registers : PushInsn → BitVec 16
  | pushT1 registerList M => withLr (registerList.setWidth 16) M
  | pushT2 registerList M => withLr registerList M

theorem handler_eq (p : PushInsn) :
    p.handler (U := U) = storeRegisters regSp p.registers false true := by
  cases p <;> rfl

end PushInsn

namespace PopInsn

def handler : PopInsn → Emu U Unit
  | popT1 registerList P   => i16PopT1 registerList P
  | popT2 registerList P M => i32PopT2 registerList P M

def orPc (registerList : BitVec 16) (P : Bool) : BitVec 16 :=
  if P then registerList ||| (1 : BitVec 16) <<< regPc.toNat else registerList

-- The registers that are loaded.
def registers : PopInsn → BitVec 16
  | popT1 registerList P   => orPc (registerList.setWidth 16) P
  | popT2 registerList P M => withLr (orPc registerList P) M

variable {t : InsnEmuCtx U} {f : Fin 16 → Word} {q : PopInsn}

theorem handler_eq (h : ∀ k r, (regsOf q.registers)[k]? = some r →
      t.emuCtx.addrSpace.read32 t.emuCtx.memory (t.emuCtx.cpu.reg 13 + 4 * BitVec.ofNat 32 k) =
        .ok (f r)) :
    q.handler t = .ok ((), (t.loaded f (regsOf q.registers)).setReg 13
      (t.emuCtx.cpu.reg 13 + 4 * BitVec.ofNat 32 (regsOf q.registers).length)) := by
  cases q
  case popT1 registerList P =>
    cases P
    case false => exact loadRegisters_eq h
    case true =>
      have hp : 15 ∈ regsOf (popT1 registerList true).registers := mem_regsOf.mpr <| by
        simp [registers, orPc, regPc]
      rw [← InsnEmuCtx.loaded_of_mem hp]
      exact loadRegisters_eq (s := { t with advancePc := false }) h
  case popT2 registerList P M =>
    cases P
    case false => exact loadRegisters_eq h
    case true =>
      have hp : 15 ∈ regsOf (popT2 registerList true M).registers := mem_regsOf.mpr <| by
        cases M <;> simp [registers, withLr, orPc, regPc]
      rw [← InsnEmuCtx.loaded_of_mem hp]
      exact loadRegisters_eq (s := { t with advancePc := false }) h

end PopInsn

-- Nothing but the registers of a list has changed, as far as memory is concerned.
structure ChangedIn (registers : BitVec 16) (s t : InsnEmuCtx U) : Prop where
  reg       : ∀ r : Fin 16, ¬registers.getLsbD r → t.emuCtx.cpu.reg r = s.emuCtx.cpu.reg r
  addrSpace : t.emuCtx.addrSpace = s.emuCtx.addrSpace
  memory    : t.emuCtx.memory = s.emuCtx.memory

-- The list with PC in the place of LR.
def lrToPc (registers : BitVec 16) : BitVec 16 :=
  registers &&& ~~~((1 : BitVec 16) <<< 14) ||| (1 : BitVec 16) <<< 15

section Inversion

variable {s s' t : InsnEmuCtx U} {slice : AddressSlice} {registers : BitVec 16}

theorem getLsbD_lrToPc (r : Fin 16) : (lrToPc registers).getLsbD r =
    if r = 14 then false else if r = 15 then true else registers.getLsbD r := by
  obtain ⟨r, hr⟩ := r
  interval_cases r <;> simp [lrToPc]

theorem regsOf_lrToPc (h₁ : registers.getLsbD (14 : Fin 16))
    (h₂ : registers.getLsbD (15 : Fin 16) = false) :
    regsOf (lrToPc registers) = (regsOf registers).map fun r => if r = 14 then 15 else r := by
  have hs : List.finRange 16 = (List.finRange 14).map (Fin.castLE (by decide)) ++ [14, 15] := by
    decide
  have hn : ∀ r ∈ (List.finRange 14).map (Fin.castLE (by decide : 14 ≤ 16)), r ≠ 14 ∧ r ≠ 15 := by
    decide
  generalize (List.finRange 14).map (Fin.castLE (by decide : 14 ≤ 16)) = front at hs hn
  have hf : front.filter (fun r : Fin 16 => (lrToPc registers).getLsbD r) =
      front.filter fun r : Fin 16 => registers.getLsbD r := by
    refine List.filter_congr fun r hr => ?_
    rw [getLsbD_lrToPc, if_neg (hn r hr).left, if_neg (hn r hr).right]
  have hm : (front.filter fun r : Fin 16 => registers.getLsbD r).map
      (fun r => if r = 14 then 15 else r) = front.filter fun r : Fin 16 => registers.getLsbD r := by
    refine (List.map_congr_left fun r hr => ?_).trans <| List.map_id _
    exact if_neg (hn r (List.mem_filter.mp hr).left).left
  have h₁₄ : (lrToPc registers).getLsbD (14 : Fin 16) = false := getLsbD_lrToPc 14
  have h₁₅ : (lrToPc registers).getLsbD (15 : Fin 16) = true := getLsbD_lrToPc 15
  rw [regsOf, regsOf, hs, List.filter_append, List.filter_append, hf, List.map_append, hm]
  simp only [List.filter_cons, h₁, h₂, h₁₄, h₁₅, List.filter_nil, if_true, Bool.false_eq_true,
    if_false]
  rfl

-- The words that PUSH has stored are those that POP loads.

theorem ne_of_getLsbD {r : Fin 16} {n : Fin 16} (hn : registers.getLsbD n = false)
    (h : registers.getLsbD r) : r ≠ n := by
  rintro rfl
  rw [hn] at h
  cases h

theorem pop_restored {q : PopInsn} (h₁₅ : registers.getLsbD (15 : Fin 16) = false)
    (h : ∀ k r, (regsOf registers)[k]? = some r → t.emuCtx.addrSpace.read32 t.emuCtx.memory
      (t.emuCtx.cpu.reg 13 + 4 * BitVec.ofNat 32 k) = .ok (s.emuCtx.cpu.reg r))
    (hsp : t.emuCtx.cpu.reg 13 =
      s.emuCtx.cpu.reg 13 - 4 * BitVec.ofNat 32 (regsOf registers).length)
    (hq : q.registers = registers) : q.handler t = .ok ((), t.restored s registers) := by
  subst hq
  rw [PopInsn.handler_eq h, hsp, BitVec.sub_add_cancel]
  refine congrArg (fun t => Except.ok ((), t)) <| InsnEmuCtx.loaded_setReg (fun r => ?_) ?_
  · by_cases h₁ : r = 13
    case pos => simp [h₁]
    case neg =>
      cases h₂ : q.registers.getLsbD r
      case false => simp [mem_regsOf, h₁, h₂, - BitVec.getLsbD_eq_getElem]
      case true =>
        have hn := ne_of_getLsbD h₁₅ h₂
        simp [mem_regsOf, h₁, h₂, loadedWord, hn, - BitVec.getLsbD_eq_getElem]
  · have hn : 15 ∉ regsOf q.registers := by
      rw [mem_regsOf, h₁₅]
      exact Bool.false_ne_true
    simp [hn]

theorem pop_returned {q : PopInsn} (h₁₄ : registers.getLsbD (14 : Fin 16))
    (h₁₅ : registers.getLsbD (15 : Fin 16) = false)
    (h : ∀ k r, (regsOf registers)[k]? = some r → t.emuCtx.addrSpace.read32 t.emuCtx.memory
      (t.emuCtx.cpu.reg 13 + 4 * BitVec.ofNat 32 k) = .ok (s.emuCtx.cpu.reg r))
    (hsp : t.emuCtx.cpu.reg 13 =
      s.emuCtx.cpu.reg 13 - 4 * BitVec.ofNat 32 (regsOf registers).length)
    (hq : q.registers = lrToPc registers) : q.handler t = .ok ((), t.returned s registers) := by
  have hm := regsOf_lrToPc h₁₄ h₁₅
  rw [← hq] at hm
  have h' : ∀ k r, (regsOf q.registers)[k]? = some r → t.emuCtx.addrSpace.read32 t.emuCtx.memory
      (t.emuCtx.cpu.reg 13 + 4 * BitVec.ofNat 32 k) =
        .ok (Function.update s.emuCtx.cpu.reg 15 (s.emuCtx.cpu.reg 14) r) := by
    intro k r hk
    rw [hm, List.getElem?_map] at hk
    obtain ⟨r', hk', rfl⟩ := Option.map_eq_some_iff.mp hk
    have hr : registers.getLsbD r' := mem_regsOf.mp <| List.mem_of_getElem? hk'
    rw [h k r' hk']
    by_cases he : r' = 14
    case pos => rw [if_pos he, Function.update_self, he]
    case neg => rw [if_neg he, Function.update_of_ne <| ne_of_getLsbD h₁₅ hr]
  rw [PopInsn.handler_eq h', hsp, hm, List.length_map, BitVec.sub_add_cancel, ← hm, hq]
  refine congrArg (fun t => Except.ok ((), t)) <| InsnEmuCtx.loaded_setReg (fun r => ?_) ?_
  · simp only [mem_regsOf, getLsbD_lrToPc]
    by_cases h₁ : r = 13
    case pos => simp [h₁]
    case neg =>
      by_cases h₂ : r = 15
      case pos => simp [h₂, loadedWord]
      case neg =>
        by_cases h₃ : r = 14
        case pos => simp [h₃]
        case neg => simp [h₁, h₂, h₃, loadedWord, - BitVec.getLsbD_eq_getElem]
  · have hn : 15 ∈ regsOf (lrToPc registers) := mem_regsOf.mpr <| getLsbD_lrToPc 15
    simp [hn]

theorem Stores.word_at {b : Fin 16} {inc wb : Bool} {k : Nat} {r : Fin 16}
    (h : Stores slice registers b inc wb s s') (hk : (regsOf registers)[k]? = some r) :
    s'.emuCtx.addrSpace.read32 s'.emuCtx.memory
      (lowest inc (s.emuCtx.cpu.reg b) registers + 4 * BitVec.ofNat 32 k) =
        .ok (s.emuCtx.cpu.reg r) := by
  have hr : registers.getLsbD r := mem_regsOf.mp <| List.mem_of_getElem? hk
  have hn : (regsOf registers).Nodup := (List.nodup_finRange 16).filter _
  have hl := (List.getElem?_eq_some_iff.mp hk).choose
  rw [List.getElem?_inj hl hn |>.mp <| hk.trans (regsOf_rank hr).symm]
  exact h.word r hr

theorem storeRegisters_pop (h₁₃ : registers.getLsbD (13 : Fin 16) = false)
    (h₁₅ : registers.getLsbD (15 : Fin 16) = false) :
    (∀ (s : InsnEmuCtx U) (slice : AddressSlice) (b : Fin 16) (inc wb : Bool),
      LiesIn s.emuCtx.addrSpace s.emuCtx.memory slice (lowest inc (s.emuCtx.cpu.reg b) registers)
        (regsOf registers).length →
      ∃ s', storeRegisters (regNo b) registers inc wb s = .ok ((), s') ∧
        Stores slice registers b inc wb s s') ∧
    ∀ (s : InsnEmuCtx U) (slice : AddressSlice) (p : PushInsn), p.registers = registers →
      LiesIn s.emuCtx.addrSpace s.emuCtx.memory slice
        (lowest false (s.emuCtx.cpu.reg 13) registers) (regsOf registers).length →
      ∃ s', p.handler s = .ok ((), s') ∧ Stores slice registers 13 false true s s' ∧
        ∀ t, ChangedIn registers s' t →
          (∀ q : PopInsn, q.registers = registers →
            q.handler t = .ok ((), t.restored s registers)) ∧
          ∀ q : PopInsn, registers.getLsbD (14 : Fin 16) → q.registers = lrToPc registers →
            q.handler t = .ok ((), t.returned s registers) ∧
            ∀ n, (t.returned s registers).nextPc n = s.emuCtx.cpu.reg 14 &&& ~~~1 := by
  refine ⟨fun _ _ _ _ _ h => storeRegisters_stores h, fun s slice p hp h => ?_⟩
  obtain ⟨s', hs, hw⟩ : ∃ s', storeRegisters (regNo 13) registers false true s = .ok ((), s') ∧
      Stores slice registers 13 false true s s' := storeRegisters_stores h
  refine ⟨s', by rw [p.handler_eq, hp]; exact hs, hw, fun t ht => ?_⟩
  have hsp : t.emuCtx.cpu.reg 13 =
      s.emuCtx.cpu.reg 13 - 4 * BitVec.ofNat 32 (regsOf registers).length := by
    rw [ht.reg 13 (Bool.eq_false_iff.mp h₁₃), hw.state]
    simp only [if_true, Bool.false_eq_true, if_false, InsnEmuCtx.setReg_reg, Function.update_self]
  have hr : ∀ k r, (regsOf registers)[k]? = some r → t.emuCtx.addrSpace.read32 t.emuCtx.memory
      (t.emuCtx.cpu.reg 13 + 4 * BitVec.ofNat 32 k) = .ok (s.emuCtx.cpu.reg r) := by
    intro k r hk
    rw [ht.addrSpace, ht.memory, hsp]
    exact hw.word_at hk
  exact ⟨fun q hq => pop_restored h₁₅ hr hsp hq,
    fun q h₁₄ hq => ⟨pop_returned h₁₄ h₁₅ hr hsp hq, fun _ => rfl⟩⟩

end Inversion

end

-- `push {r0, r1, lr}` and `pop {r0, r1, pc}` behind it, with 16 bytes of RAM
theorem storeRegisters_pop_smallMachine :
    let s     := (smallMachine []).insnCtx.setReg 13 0x20000010
    let slice := { defaultParameters with ramSizeBytes := 16 }.ram.slice
    ∃ s', i32PushT2 0x0003 true s = .ok ((), s') ∧ Stores slice 0x4003 13 false true s s' ∧
      i16PopT1 0x03 true s' = .ok ((), s'.returned s 0x4003) := by
  intro s slice
  have hl : LiesIn s.emuCtx.addrSpace s.emuCtx.memory slice
      (lowest false (s.emuCtx.cpu.reg 13) 0x4003) (regsOf 0x4003).length :=
    ⟨by decide, by decide, by decide, by decide⟩
  have ⟨s', hs, hw, ht⟩ := (storeRegisters_pop (by decide) (by decide)).right s slice
    (.pushT2 0x0003 true) rfl hl
  have hr := (ht s' ⟨fun _ _ => rfl, rfl, rfl⟩).right (.popT1 0x03 true) (by decide) (by decide)
  exact ⟨s', hs, hw, hr.left⟩

end Emulation
