import Mathlib.Tactic.IntervalCases
import Thumb2Sim.AddressSpace.Theorems.Flat
import Thumb2Sim.Emulation.Theorems.Addressing

open Program Emu

namespace InsnEmuCtx

variable {U : Type}

def setSpace (s : InsnEmuCtx U) (as : Addrspace) (memory : HostMemory) : InsnEmuCtx U :=
  { s with emuCtx := { s.emuCtx with addrSpace := as, memory := memory } }

end InsnEmuCtx

namespace Emulation

-- A base and an index that is shifted by a constant.
structure RegOffset where
  Rn  : Fin 16
  Rm  : Fin 16
  imm : Byte

namespace RegOffset

def address (o : RegOffset) (cpu : Cpu) : Word :=
  cpu.reg o.Rn + cpu.reg o.Rm <<< o.imm.toNat

end RegOffset

-- The ways to use such an address. The last one is a store of a byte and a load behind it.
inductive RegOffsetUse
  | ldr (Rt : Fin 16)
  | str (Rt : Fin 16)
  | ldrb (Rt : Fin 16)
  | strb (Rt : Fin 16)
  | strbLdrb (Rt Rtx : Fin 16)

namespace RegOffsetUse

variable {U : Type}

def handler (o : RegOffset) : RegOffsetUse → Emu U Unit
  | ldr Rt          => i32LdrRegT2 (regNo Rt) (regNo o.Rn) (regNo o.Rm) o.imm
  | str Rt          => i32StrRegT2 (regNo Rt) (regNo o.Rn) (regNo o.Rm) o.imm
  | ldrb Rt         => i32LdrbRegT2 (regNo Rt) (regNo o.Rn) (regNo o.Rm) o.imm
  | strb Rt         => i32StrbRegT2 (regNo Rt) (regNo o.Rn) (regNo o.Rm) o.imm
  | strbLdrb Rt Rtx => do
    i32StrbRegT2 (regNo Rt) (regNo o.Rn) (regNo o.Rm) o.imm
    i32LdrbRegT2 (regNo Rtx) (regNo o.Rn) (regNo o.Rm) o.imm

-- The word or byte is transferred at the address. A byte that was stored is loaded again.
def Transfers (s : InsnEmuCtx U) (o : RegOffset) (u : RegOffsetUse) : Prop :=
  let address := o.address s.emuCtx.cpu
  match u with
  | ldr Rt          => u.handler o s = ((Transfer.ldr Rt).run s address).map ((), ·)
  | str Rt          => u.handler o s = ((Transfer.str Rt).run s address).map ((), ·)
  | ldrb Rt         => u.handler o s = ((Transfer.ldrb Rt).run s address).map ((), ·)
  | strb Rt         => u.handler o s = ((Transfer.strb Rt).run s address).map ((), ·)
  | strbLdrb Rt Rtx =>
    s.emuCtx.addrSpace.Buffered s.emuCtx.memory → s.emuCtx.addrSpace.Writable address →
    ∃ t, u.handler o s = .ok ((), t) ∧
      t.emuCtx.cpu.reg Rtx = ((s.emuCtx.cpu.reg Rt).setWidth 8).setWidth 32

-- What the registers and the shift have to be like for the handlers to get it right, whatever is in
-- the memory. `ldrb_reg_T2` shifts the byte that it loads, at the address for no shift, and
-- `strb_reg_T2` adds the shift to the address. There is nothing to be loaded at the last address.
def Accurate (cpu : Cpu) (o : RegOffset) : RegOffsetUse → Prop
  | ldr _ | str _ => True
  | ldrb _        => o.imm = 0 ∨
    cpu.reg o.Rn + cpu.reg o.Rm = lastAddress ∧ o.address cpu = lastAddress
  | strb _        => cpu.reg o.Rm + o.imm.setWidth 32 = cpu.reg o.Rm <<< o.imm.toNat
  | strbLdrb Rt _ => o.imm = 0 ∨ o.address cpu = lastAddress ∨
    cpu.reg o.Rn + cpu.reg o.Rm = lastAddress ∧ (cpu.reg Rt).setWidth 8 = (0 : Byte)

variable {s : InsnEmuCtx U} {o : RegOffset} {Rt Rtx : Fin 16}

-- The handlers.

theorem ldr_handler_eq (h : o.imm.toNat < 32) : (ldr Rt).handler o s =
    ((Transfer.ldr Rt).run s <| o.address s.emuCtx.cpu).map ((), ·) := by
  rw [handler, i32LdrRegT2, bind_of_ok getReg_eq, bind_of_ok getReg_eq, bind_of_ok (checked_shl h)]
  exact Transfer.ldr_eq

theorem str_handler_eq (h : o.imm.toNat < 32) : (str Rt).handler o s =
    ((Transfer.str Rt).run s <| o.address s.emuCtx.cpu).map ((), ·) := by
  rw [handler, i32StrRegT2, bind_of_ok getReg_eq, bind_of_ok getReg_eq, bind_of_ok (checked_shl h)]
  exact Transfer.str_eq

theorem strb_handler_eq : (strb Rt).handler o s = ((Transfer.strb Rt).run s <|
    s.emuCtx.cpu.reg o.Rn + s.emuCtx.cpu.reg o.Rm + o.imm.setWidth 32).map ((), ·) := by
  rw [handler, i32StrbRegT2, bind_of_ok getReg_eq, bind_of_ok getReg_eq]
  exact Transfer.strb_eq

theorem ldrb_handler_eq (h : o.imm.toNat < 32) : (ldrb Rt).handler o s =
    (s.emuCtx.addrSpace.read8 s.emuCtx.memory <|
      s.emuCtx.cpu.reg o.Rn + s.emuCtx.cpu.reg o.Rm).map fun byte =>
        ((), s.setReg Rt ((byte.setWidth 32 : Word) <<< o.imm.toNat)) := by
  rw [handler, i32LdrbRegT2, bind_of_ok getReg_eq, bind_of_ok getReg_eq, read8, load_bind]
  cases s.emuCtx.addrSpace.read8 s.emuCtx.memory (s.emuCtx.cpu.reg o.Rn + s.emuCtx.cpu.reg o.Rm)
  case error   => rfl
  case ok byte =>
    change (if o.imm ≠ 0 then _ else _ : Emu U Unit) s = .ok _
    by_cases hi : o.imm = 0
    case pos =>
      rw [if_neg <| not_not_intro hi, setReg_eq, hi]
      simp
    case neg =>
      have hb : (checked (barrelShift (byte.setWidth 32) typeLsl o.imm) : Emu U _) s =
          .ok (⟨byte.setWidth 32 <<< o.imm.toNat, (byte.setWidth 32).getLsbD 31⟩, s) := by
        rw [barrelShift_lsl h]
        rfl
      rw [if_pos hi, bind_of_ok hb, setReg_eq]

-- The byte that is loaded behind the store is the one at the address for no shift.
theorem strbLdrb_handler_eq {m : HostMemory} {x : Byte} (h : o.imm.toNat < 32)
    (hm : s.emuCtx.addrSpace.write8 s.emuCtx.memory (s.emuCtx.cpu.reg o.Rn + s.emuCtx.cpu.reg o.Rm +
      o.imm.setWidth 32) ((s.emuCtx.cpu.reg Rt).setWidth 8) = .ok m)
    (hx : s.emuCtx.addrSpace.read8 m (s.emuCtx.cpu.reg o.Rn + s.emuCtx.cpu.reg o.Rm) = .ok x) :
    (strbLdrb Rt Rtx).handler o s =
      .ok ((), (s.setMemory m).setReg Rtx ((x.setWidth 32 : Word) <<< o.imm.toNat)) := by
  have hs : (strb Rt).handler o s = .ok ((), s.setMemory m) := by
    rw [strb_handler_eq, Transfer.run, hm]
    rfl
  exact (bind_of_ok hs).trans <| (ldrb_handler_eq h).trans <| congrArg (Except.map _) hx

-- The uses that are right in every memory.

theorem transfers_ldrb (h : o.imm = 0) : (ldrb Rt).Transfers s o := by
  rw [Transfers, ldrb_handler_eq (by simp [h]), RegOffset.address, Transfer.run, h]
  simp only [BitVec.ofNat_eq_ofNat, BitVec.toNat_ofNat, Nat.zero_mod, BitVec.shiftLeft_zero]
  cases s.emuCtx.addrSpace.read8 s.emuCtx.memory _ <;> rfl

theorem transfers_strb (h : (strb Rt).Accurate s.emuCtx.cpu o) : (strb Rt).Transfers s o := by
  have h : s.emuCtx.cpu.reg o.Rm + o.imm.setWidth 32 = _ := h
  rw [Transfers, strb_handler_eq, RegOffset.address, BitVec.add_assoc, h]

theorem transfers_strbLdrb (h : o.imm = 0) : (strbLdrb Rt Rtx).Transfers s o := by
  intro hb hw
  obtain ⟨m, hm, hr⟩ := Addrspace.read8_write8 (b := (s.emuCtx.cpu.reg Rt).setWidth 8) hb hw
  have ha : o.address s.emuCtx.cpu = s.emuCtx.cpu.reg o.Rn + s.emuCtx.cpu.reg o.Rm := by
    simp [RegOffset.address, h]
  refine ⟨_, strbLdrb_handler_eq (by simp [h]) ?_ (ha ▸ hr), ?_⟩
  case refine_1 => simpa [h, ha] using hm
  case refine_2 => simp [h]

-- The other uses go wrong in a memory with the right bytes.

theorem one_shiftLeft_ne (h : o.imm.toNat ≤ 3) (h₀ : o.imm ≠ 0) {y : Byte} (hy : y = 0 ∨ y = 1) :
    ((1 : Byte).setWidth 32 : Word) <<< o.imm.toNat ≠ y.setWidth 32 := by
  have := Bits.toNat_pos h₀
  interval_cases o.imm.toNat <;> obtain rfl | rfl := hy <;> decide

theorem shifted_of_transfers {x y : Byte} (h : o.imm.toNat < 32)
    (hx : s.emuCtx.addrSpace.read8 s.emuCtx.memory
      (s.emuCtx.cpu.reg o.Rn + s.emuCtx.cpu.reg o.Rm) = .ok x)
    (hy : s.emuCtx.addrSpace.read8 s.emuCtx.memory (o.address s.emuCtx.cpu) = .ok y)
    (ht : (ldrb Rt).Transfers s o) : (x.setWidth 32 : Word) <<< o.imm.toNat = y.setWidth 32 := by
  have he := (ldrb_handler_eq h).symm.trans ht
  rw [Transfer.run, hx, hy] at he
  have he := congrArg (·.emuCtx.cpu.reg Rt) (Prod.mk.inj <| Except.ok.inj he).right
  simpa using he

theorem accurate_ldrb (h : o.imm.toNat ≤ 3)
    (ht : (ldrb Rt).Transfers (s.setSpace .flat <| Addrspace.uniform 1) o) :
    (ldrb Rt).Accurate s.emuCtx.cpu o := by
  by_cases h₀ : o.imm = 0
  case pos => exact .inl h₀
  case neg =>
    have he := shifted_of_transfers (by omega) Addrspace.read8_uniform Addrspace.read8_uniform ht
    change BitVec.setWidth 32 (if s.emuCtx.cpu.reg o.Rn + s.emuCtx.cpu.reg o.Rm = _ then _ else _)
      <<< _ = BitVec.setWidth 32 (if o.address s.emuCtx.cpu = _ then _ else _) at he
    by_cases hb : s.emuCtx.cpu.reg o.Rn + s.emuCtx.cpu.reg o.Rm = lastAddress
    case pos =>
      refine .inr ⟨hb, ?_⟩
      by_contra ha
      rw [if_pos hb, if_neg ha, show (0 : Byte).setWidth 32 = (0 : Word) from rfl] at he
      simp at he
    case neg =>
      rw [if_neg hb] at he
      refine absurd he <| one_shiftLeft_ne h h₀ ?_
      split
      case isTrue  => exact .inl rfl
      case isFalse => exact .inr rfl

theorem memory_of_transfers {m m' : HostMemory}
    (hm : s.emuCtx.addrSpace.write8 s.emuCtx.memory (s.emuCtx.cpu.reg o.Rn + s.emuCtx.cpu.reg o.Rm +
      o.imm.setWidth 32) ((s.emuCtx.cpu.reg Rt).setWidth 8) = .ok m)
    (hm' : s.emuCtx.addrSpace.write8 s.emuCtx.memory (o.address s.emuCtx.cpu)
      ((s.emuCtx.cpu.reg Rt).setWidth 8) = .ok m')
    (ht : (strb Rt).Transfers s o) : m = m' := by
  have he := strb_handler_eq.symm.trans ht
  rw [Transfer.run, Transfer.run, hm, hm'] at he
  exact congrArg (·.emuCtx.memory) (Prod.mk.inj <| Except.ok.inj he).right

-- Two writes of the same byte leave the same memory behind. Another byte is everywhere else.
theorem accurate_strb {b : Byte} (hb : (s.emuCtx.cpu.reg Rt).setWidth 8 ≠ b)
    (ht : (strb Rt).Transfers (s.setSpace .flat <| Addrspace.uniform b) o) :
    (strb Rt).Accurate s.emuCtx.cpu o := by
  obtain ⟨m, hm, hr⟩ := Addrspace.write8_uniform b ((s.emuCtx.cpu.reg Rt).setWidth 8) <|
    s.emuCtx.cpu.reg o.Rn + s.emuCtx.cpu.reg o.Rm + o.imm.setWidth 32
  obtain ⟨m', hm', hr'⟩ := Addrspace.write8_uniform b ((s.emuCtx.cpu.reg Rt).setWidth 8) <|
    o.address s.emuCtx.cpu
  cases memory_of_transfers hm hm' ht
  have he (a) := Except.ok.inj <| (hr a).symm.trans (hr' a)
  by_contra hn
  have hn : s.emuCtx.cpu.reg o.Rn + s.emuCtx.cpu.reg o.Rm + o.imm.setWidth 32 ≠
      o.address s.emuCtx.cpu := by
    rw [RegOffset.address, BitVec.add_assoc]
    exact fun h => hn <| add_left_cancel h
  by_cases hl : o.address s.emuCtx.cpu = lastAddress
  case pos =>
    have h := he <| s.emuCtx.cpu.reg o.Rn + s.emuCtx.cpu.reg o.Rm + o.imm.setWidth 32
    rw [if_neg (hl ▸ hn), if_pos rfl, if_neg (hl ▸ hn), if_neg hn] at h
    exact hb h
  case neg =>
    have h := he <| o.address s.emuCtx.cpu
    rw [if_neg hl, if_neg hn.symm, if_neg hl, if_pos rfl] at h
    exact hb h.symm

theorem loaded_of_transfers {b : Byte} (h : o.imm.toNat ≤ 3) (h₀ : o.imm ≠ 0)
    (hl : o.address s.emuCtx.cpu ≠ lastAddress)
    (ht : (strbLdrb Rt Rtx).Transfers (s.setSpace .flat <| Addrspace.uniform b) o) :
    ((if s.emuCtx.cpu.reg o.Rn + s.emuCtx.cpu.reg o.Rm = lastAddress then 0 else b : Byte).setWidth
      32 : Word) <<< o.imm.toNat = ((s.emuCtx.cpu.reg Rt).setWidth 8).setWidth 32 := by
  obtain ⟨m, hm, hr⟩ := Addrspace.write8_uniform b ((s.emuCtx.cpu.reg Rt).setWidth 8) <|
    s.emuCtx.cpu.reg o.Rn + s.emuCtx.cpu.reg o.Rm + o.imm.setWidth 32
  have hi : o.imm.setWidth 32 ≠ (0 : Word) := by
    have := Bits.toNat_pos h₀
    bv_omega
  have hb : s.emuCtx.cpu.reg o.Rn + s.emuCtx.cpu.reg o.Rm ≠
      s.emuCtx.cpu.reg o.Rn + s.emuCtx.cpu.reg o.Rm + o.imm.setWidth 32 :=
    fun h => hi <| left_eq_add.mp h
  obtain ⟨t, ht, hx⟩ := ht Addrspace.buffered_uniform <| Addrspace.writable_flat hl
  have hr := hr <| s.emuCtx.cpu.reg o.Rn + s.emuCtx.cpu.reg o.Rm
  rw [if_neg hb] at hr
  cases (strbLdrb_handler_eq (by omega) hm hr).symm.trans ht
  rw [InsnEmuCtx.setReg_reg, Function.update_self] at hx
  exact hx

theorem accurate_strbLdrb (h : o.imm.toNat ≤ 3)
    (ht : ∀ b, (strbLdrb Rt Rtx).Transfers (s.setSpace .flat <| Addrspace.uniform b) o) :
    (strbLdrb Rt Rtx).Accurate s.emuCtx.cpu o := by
  by_cases h₀ : o.imm = 0
  case pos => exact .inl h₀
  case neg =>
    by_cases hl : o.address s.emuCtx.cpu = lastAddress
    case pos => exact .inr <| .inl hl
    case neg =>
      have hx := loaded_of_transfers h h₀ hl (ht 0)
      have hv : (s.emuCtx.cpu.reg Rt).setWidth 8 = (0 : Byte) := by
        rw [ite_self, BitVec.ofNat_eq_ofNat, BitVec.setWidth_zero, BitVec.zero_shiftLeft] at hx
        generalize (s.emuCtx.cpu.reg Rt).setWidth 8 = v at hx ⊢
        bv_omega
      refine .inr <| .inr ⟨?_, hv⟩
      by_contra hn
      have hx := loaded_of_transfers h h₀ hl (ht 1)
      rw [if_neg hn] at hx
      exact one_shiftLeft_ne h h₀ (.inl hv) hx

-- At the last address, a zero is loaded.

theorem transfers_ldrb_last (h : o.imm.toNat < 32)
    (hb : s.emuCtx.cpu.reg o.Rn + s.emuCtx.cpu.reg o.Rm = lastAddress)
    (ha : o.address s.emuCtx.cpu = lastAddress) : (ldrb Rt).Transfers s o := by
  rw [Transfers, ldrb_handler_eq h, Transfer.run, hb, ha, Addrspace.read8_lastAddress]
  simp [Except.map]

theorem transfers_strbLdrb_last (h : o.imm.toNat < 32)
    (hb : s.emuCtx.cpu.reg o.Rn + s.emuCtx.cpu.reg o.Rm = lastAddress)
    (hv : (s.emuCtx.cpu.reg Rt).setWidth 8 = (0 : Byte)) : (strbLdrb Rt Rtx).Transfers s o := by
  intro hm _
  obtain ⟨m, hm⟩ := hm.write8_ok
  refine ⟨_, strbLdrb_handler_eq h hm <| hb ▸ Addrspace.read8_lastAddress, ?_⟩
  rw [InsnEmuCtx.setReg_reg, Function.update_self, hv, BitVec.ofNat_eq_ofNat, BitVec.setWidth_zero,
    BitVec.zero_shiftLeft]

-- The uses that are right whatever is in the memory.
theorem transfers_iff (u : RegOffsetUse) (h : o.imm.toNat ≤ 3) :
    (∀ as memory, u.Transfers (s.setSpace as memory) o) ↔ u.Accurate s.emuCtx.cpu o := by
  cases u
  case ldr => exact iff_of_true (fun _ _ => ldr_handler_eq <| by omega) trivial
  case str => exact iff_of_true (fun _ _ => str_handler_eq <| by omega) trivial
  case ldrb =>
    refine ⟨fun ht => accurate_ldrb h <| ht .., ?_⟩
    rintro (h₀ | ⟨hb, ha⟩) as memory
    case inl => exact transfers_ldrb h₀
    case inr => exact transfers_ldrb_last (by omega) hb ha
  case strb Rt =>
    refine ⟨fun ht => ?_, fun ha as memory => transfers_strb ha⟩
    refine accurate_strb (b := (s.emuCtx.cpu.reg Rt).setWidth 8 + 1) ?_ (ht ..)
    generalize (s.emuCtx.cpu.reg Rt).setWidth 8 = v
    bv_omega
  case strbLdrb =>
    refine ⟨fun ht => accurate_strbLdrb h fun b => ht .flat <| Addrspace.uniform b, ?_⟩
    rintro (h₀ | hl | ⟨hb, hv⟩) as memory
    case inl => exact transfers_strbLdrb h₀
    case inr.inl => exact fun _ hw => absurd hl hw.ne_lastAddress
    case inr.inr => exact transfers_strbLdrb_last (by omega) hb hv

-- `strb r0, [r1, r2, lsl #1]`
theorem transfers_iff_strb :
    (∀ as memory, (strb 0).Transfers ((cpuWith [7, 8, 1]).setSpace as memory) ⟨1, 2, 1⟩) ↔
    (strb 0).Accurate (cpuWith [7, 8, 1]).emuCtx.cpu ⟨1, 2, 1⟩ :=
  transfers_iff (s := cpuWith [7, 8, 1]) (o := ⟨1, 2, 1⟩) (strb 0) (by decide)

-- `ldrb r0, [r1, r2, lsl #1]`, with the byte 5 at the address 2, and 1 in front of it.
theorem not_transfers_ldrb :
    let space : Addrspace := ⟨[⟨0, 4, ⟨0, 0⟩, false, false⟩], by decide⟩
    ¬(ldrb 0).Transfers ((cpuWith [0, 0, 1]).setSpace space fun _ => [0, 1, 5, 7]) ⟨1, 2, 1⟩ := by
  intro space ht
  have hb : (cpuWith [0, 0, 1]).emuCtx.cpu.reg 1 + (cpuWith [0, 0, 1]).emuCtx.cpu.reg 2 = 1 := by
    decide
  have ha : RegOffset.address ⟨1, 2, 1⟩ (cpuWith [0, 0, 1]).emuCtx.cpu = 2 := by decide
  have hx : space.read8 (fun _ => [0, 1, 5, 7]) 1 = .ok 1 := rfl
  have hy : space.read8 (fun _ => [0, 1, 5, 7]) 2 = .ok 5 := rfl
  have h : ((1 : Byte).setWidth 32 : Word) <<< 1 = (5 : Byte).setWidth 32 :=
    shifted_of_transfers (by decide) (hb ▸ hx) (ha ▸ hy) ht
  exact absurd h (by decide)

end RegOffsetUse

end Emulation
