import Thumb2Sim.Emulation.Callbacks
import Thumb2Sim.Emulation.Theorems.Evaluation

open Program

-- The register that a number of eight bits selects.
def Cpu.regAt (cpu : Cpu) (r : RegNo) : Word :=
  cpu.reg <| Fin.ofNat 16 r.toNat

@[simp]
theorem Cpu.regAt_regNo (cpu : Cpu) (r : Fin 16) : cpu.regAt (regNo r) = cpu.reg r := by
  rw [regAt, Emu.regNo_toNat]
  simp

namespace Emu

theorem regNo_lt (r : Fin 16) : (regNo r).toNat < 16 := by
  rw [regNo_toNat]
  exact r.isLt

variable {U : Type} {s : InsnEmuCtx U} {r : RegNo} {v w address : Word} {b c : Bool}

-- The operations on the state make no shifts.

@[simp]
theorem not_fails_getReg : ¬Fails .shift (getReg r) s := by
  unfold Fails getReg
  split <;> simp

@[simp]
theorem not_fails_setReg : ¬Fails .shift (setReg r v) s := by
  unfold Fails setReg
  split <;> simp

@[simp]
theorem not_fails_getPsr : ¬Fails .shift getPsr s := by
  simp [Fails, getPsr]

@[simp]
theorem not_fails_setPsr : ¬Fails .shift (setPsr v) s := by
  simp [Fails, setPsr]

@[simp]
theorem not_fails_getItState : ¬Fails .shift getItState s := by
  simp [Fails, getItState]

@[simp]
theorem not_fails_setAdvancePc : ¬Fails .shift (setAdvancePc b) s := by
  simp [Fails, setAdvancePc]

@[simp]
theorem not_fails_memptr : ¬Fails .shift (memptr v w) s := by
  simp [Fails, memptr]

@[simp]
theorem not_fails_callHost {α : Type} {f : EmuCtx U → EmuCtx U × α} :
    ¬Fails .shift (callHost f) s := by
  simp [Fails, callHost]

theorem not_fails_load {α : Type} {f : Addrspace → HostMemory → Except Undefined α}
    (h : ∀ as memory, f as memory ≠ .error .shift) : ¬Fails .shift (load f) s := by
  have hf := h s.emuCtx.addrSpace s.emuCtx.memory
  unfold Fails load
  cases hx : f s.emuCtx.addrSpace s.emuCtx.memory <;> rw [hx] at hf
  case ok      => simp [bind, Except.bind, pure, Except.pure]
  case error e => simpa [bind, Except.bind] using hf

theorem not_fails_store {f : Addrspace → HostMemory → Except Undefined HostMemory}
    (h : ∀ as memory, f as memory ≠ .error .shift) : ¬Fails .shift (store f) s := by
  have hf := h s.emuCtx.addrSpace s.emuCtx.memory
  unfold Fails store
  cases hx : f s.emuCtx.addrSpace s.emuCtx.memory <;> rw [hx] at hf
  case ok      => simp [bind, Except.bind, pure, Except.pure]
  case error e => simpa [bind, Except.bind] using hf

theorem readN_ne_shift {as : Addrspace} {memory : HostMemory} {length : Word} :
    as.readN memory address length ≠ .error .shift := by
  intro h
  cases Addrspace.readN_error h

theorem writeN_ne_shift {as : Addrspace} {memory : HostMemory} {length : Word} :
    as.writeN memory address length v ≠ .error .shift := by
  intro h
  cases Addrspace.writeN_error h

theorem map_ne_shift {α β : Type} {f : α → β} {x : Except Undefined α} (h : x ≠ .error .shift) :
    (do return f (← x)) ≠ Except.error Undefined.shift := by
  cases x
  case ok      => simp [bind, Except.bind, pure, Except.pure]
  case error e => simpa [bind, Except.bind] using h

@[simp]
theorem not_fails_read8 : ¬Fails .shift (read8 address) s :=
  not_fails_load fun _ _ => map_ne_shift readN_ne_shift

@[simp]
theorem not_fails_read16 : ¬Fails .shift (read16 address) s :=
  not_fails_load fun _ _ => map_ne_shift readN_ne_shift

@[simp]
theorem not_fails_read32 : ¬Fails .shift (read32 address) s :=
  not_fails_load fun _ _ => readN_ne_shift

@[simp]
theorem not_fails_write8 {value : Byte} : ¬Fails .shift (write8 address value) s :=
  not_fails_store fun _ _ => writeN_ne_shift

@[simp]
theorem not_fails_write16 {value : BitVec 16} : ¬Fails .shift (write16 address value) s :=
  not_fails_store fun _ _ => writeN_ne_shift

@[simp]
theorem not_fails_write32 : ¬Fails .shift (write32 address v) s :=
  not_fails_store fun _ _ => writeN_ne_shift

@[simp]
theorem not_fails_setMovCondCode : ¬Fails .shift (setMovCondCode b v) s := by
  simp [setMovCondCode, emulatorExecutionUnconditionally]

@[simp]
theorem not_fails_setLslCondCode : ¬Fails .shift (setLslCondCode b v c) s := by
  simp [setLslCondCode, emulatorExecutionUnconditionally]

@[simp]
theorem not_fails_setSubCondCode {overflow : SignedOverflow} :
    ¬Fails .shift (setSubCondCode overflow b v w) s := by
  simp [setSubCondCode, setCondCode, emulatorExecutionUnconditionally]

@[simp]
theorem not_fails_setAddCondCode : ¬Fails .shift (setAddCondCode b v w) s := by
  simp [setAddCondCode, setCondCode, emulatorExecutionUnconditionally]

variable {aRegisters : BitVec 16}

theorem not_fails_storeRegistersLoop {l : List Nat} :
    ¬Fails .shift (storeRegistersLoop aRegisters b l address) s := by
  induction l generalizing address s
  case nil            => simp [storeRegistersLoop]
  case cons regNo _ hi => simp [storeRegistersLoop, hi]

theorem not_fails_loadRegistersLoop {l : List Nat} :
    ¬Fails .shift (loadRegistersLoop aRegisters l address) s := by
  induction l generalizing address s
  case nil       => simp [loadRegistersLoop]
  case cons _ hi => simp [loadRegistersLoop, hi]

@[simp]
theorem not_fails_storeRegisters : ¬Fails .shift (storeRegisters r aRegisters b c) s := by
  simp [storeRegisters, not_fails_storeRegistersLoop]

@[simp]
theorem not_fails_loadRegisters : ¬Fails .shift (loadRegisters r aRegisters b) s := by
  simp [loadRegisters, not_fails_loadRegistersLoop]

-- The common parts of the handlers.
section Parts

variable {setCondCode : Word → Emu U Unit} {setCondCode₂ : Word → Word → Emu U Unit}
  {op : Word → Word → Word} {operand : Emu U Word} {Rd Rn Rt : RegNo} {imm : Word} {P up W : Bool}

@[simp]
theorem not_fails_arithmetic (hc : ∀ x y s, ¬Fails .shift (setCondCode₂ x y) s)
    (ho : ∀ s, ¬Fails .shift operand s) :
    ¬Fails .shift (arithmetic setCondCode₂ op Rd Rn operand) s := by
  simp [arithmetic, hc, ho]

@[simp]
theorem not_fails_logical (hc : ∀ x s, ¬Fails .shift (setCondCode x) s)
    (ho : ∀ s, ¬Fails .shift operand s) :
    ¬Fails .shift (logical setCondCode op Rd Rn operand) s := by
  simp [logical, hc, ho]

@[simp]
theorem fails_move (hc : ∀ x s, ¬Fails .shift (setCondCode x) s) :
    Fails .shift (move setCondCode Rd operand) s ↔ Fails .shift operand s := by
  simp [move, hc]

@[simp]
theorem not_fails_ldr : ¬Fails .shift (ldr Rt address) s := by
  simp [ldr]

@[simp]
theorem not_fails_ldrb : ¬Fails .shift (ldrb Rt address) s := by
  simp [ldrb]

@[simp]
theorem not_fails_ldrh : ¬Fails .shift (ldrh Rt address) s := by
  simp [ldrh]

@[simp]
theorem not_fails_str : ¬Fails .shift (str Rt address) s := by
  simp [str]

@[simp]
theorem not_fails_strb : ¬Fails .shift (strb Rt address) s := by
  simp [strb]

@[simp]
theorem not_fails_strh : ¬Fails .shift (strh Rt address) s := by
  simp [strh]

@[simp]
theorem not_fails_indexed : ¬Fails .shift (Emu.indexed Rn imm P up) s := by
  simp [Emu.indexed]

@[simp]
theorem not_fails_writeback : ¬Fails .shift (writeback Rn imm up W) s := by
  simp [writeback]

@[simp]
theorem not_fails_literal : ¬Fails .shift (literal imm) s := by
  simp [literal]

end Parts

theorem getReg_of_lt (h : r.toNat < 16) : getReg r s = .ok (s.emuCtx.cpu.regAt r, s) := by
  have hr : r = regNo ⟨r.toNat, h⟩ := BitVec.eq_of_toNat_eq (regNo_toNat ⟨r.toNat, h⟩).symm
  rw [hr, getReg_eq, Cpu.regAt_regNo]

theorem shl_eq_error_iff {m n : Nat} {x : BitVec m} : CInt.shl x n = .error .shift ↔ m ≤ n := by
  by_cases h : n < m
  case pos => simp [CInt.shl_of_lt h, h]
  case neg => simp [CInt.shl_of_le <| Nat.le_of_not_lt h, Nat.le_of_not_lt h]

theorem shr_eq_error_iff {m n : Nat} {x : BitVec m} : CInt.shr x n = .error .shift ↔ m ≤ n := by
  by_cases h : n < m
  case pos => simp [CInt.shr_of_lt h, h]
  case neg => simp [CInt.shr_of_le <| Nat.le_of_not_lt h, Nat.le_of_not_lt h]

theorem sar_eq_error_iff {m n : Nat} {x : BitVec m} : CInt.sar x n = .error .shift ↔ m ≤ n := by
  simp [CInt.sar]

theorem shl_pred_eq_error_iff {x : Word} {imm : Byte} (h : imm.toNat < 32) :
    CInt.shl x (imm.toNat - 1 : Int) = .error .shift ↔ imm = 0 := by
  rw [← BitVec.toNat_inj]
  simp [CInt.shl]
  omega

variable {type imm : Byte}

theorem fails_shiftReg_iff (hr : r.toNat < 16) (h : imm.toNat < 32) :
    Fails .shift (shiftReg r type imm) s ↔ (type = typeLsr ∨ type = typeRor) ∧ imm = 0 := by
  rw [shiftReg, fails_bind_of_ok (getReg_of_lt hr), fails_checked, barrelShift_eq_error_iff h]

theorem fails_shiftReg_lsl_iff (hr : r.toNat < 16) :
    Fails .shift (shiftReg r typeLsl imm) s ↔ 32 ≤ imm.toNat := by
  rw [shiftReg, fails_bind_of_ok (getReg_of_lt hr), fails_checked]
  by_cases h : imm.toNat < 32
  case pos => simp [barrelShift_lsl h, h]
  case neg => simp [barrelShift_lsl_of_le <| Nat.le_of_not_lt h, Nat.le_of_not_lt h]

end Emu

namespace Emulation

open Emu

variable {U : Type} {host : Callbacks U} {s : InsnEmuCtx U} {Rd Rn Rm Rdn : RegNo}
  {type imm : Byte} {S : Bool} {v : Variant} {a : Args} {handler : Args → Emu U Unit}

-- Shifts by the content of a register.

theorem fails_i16LslRegT1_iff (hdn : Rdn.toNat < 16) (hm : Rm.toNat < 16) :
    Fails .shift (i16LslRegT1 Rdn Rm) s ↔
      32 ≤ ((s.emuCtx.cpu.regAt Rm).setWidth 8).toNat := by
  rw [i16LslRegT1, fails_bind_of_ok (getReg_of_lt hm)]
  simp [fails_shiftReg_lsl_iff hdn, move]

theorem fails_i32LslRegT2_iff (hn : Rn.toNat < 16) (hm : Rm.toNat < 16) :
    Fails .shift (i32LslRegT2 Rd Rn Rm S) s ↔
      32 ≤ ((s.emuCtx.cpu.regAt Rn).setWidth 8).toNat := by
  rw [i32LslRegT2, fails_bind_of_ok (getReg_of_lt hn)]
  simp [fails_shiftReg_lsl_iff hm, move]

-- A count of zero is looked for before the carry is taken from the bit in front of it.
theorem fails_i16LsrRegT1_iff (hdn : Rdn.toNat < 16) (hm : Rm.toNat < 16) :
    Fails .shift (i16LsrRegT1 Rdn Rm) s ↔ 32 ≤ (s.emuCtx.cpu.regAt Rm).toNat := by
  rw [i16LsrRegT1, fails_bind_of_ok (getReg_of_lt hm), fails_bind_of_ok (getReg_of_lt hdn),
    fails_checked_bind (p := 32 ≤ (s.emuCtx.cpu.regAt Rm).toNat)]
  case hf => simp [shr_eq_error_iff]
  case hx =>
    intro e h
    split at h
    case isTrue =>
      obtain he | ⟨c, hc⟩ := lsrCarry_cases (s.emuCtx.cpu.regAt Rdn) (s.emuCtx.cpu.regAt Rm)
      · cases he.symm.trans h; rfl
      · cases hc.symm.trans h
    case isFalse => cases h
  split
  case isTrue h =>
    rw [lsrCarry_eq_error_iff]
    have : s.emuCtx.cpu.regAt Rm ≠ 0#32 := h
    bv_omega
  case isFalse => simp [pure, Except.pure]

theorem fails_i32LsrRegT2_iff (hn : Rn.toNat < 16) (hm : Rm.toNat < 16) :
    Fails .shift (i32LsrRegT2 Rd Rn Rm S) s ↔
      ¬(1 ≤ (s.emuCtx.cpu.regAt Rm).toNat ∧ (s.emuCtx.cpu.regAt Rm).toNat < 32) := by
  rw [i32LsrRegT2, fails_bind_of_ok (getReg_of_lt hm), fails_bind_of_ok (getReg_of_lt hn),
    fails_checked_bind (p := 32 ≤ (s.emuCtx.cpu.regAt Rm).toNat)]
  case hf => simp [shr_eq_error_iff]
  case hx =>
    intro e h
    obtain he | ⟨c, hc⟩ := lsrCarry_cases (s.emuCtx.cpu.regAt Rn) (s.emuCtx.cpu.regAt Rm)
    · cases he.symm.trans h; rfl
    · cases hc.symm.trans h
  rw [lsrCarry_eq_error_iff]
  bv_omega

-- Right shifts by a constant.

theorem fails_i16AsrImmT1_iff (hm : Rm.toNat < 16) (h : imm.toNat < 32) :
    Fails .shift (i16AsrImmT1 Rd Rm imm) s ↔ imm = 0 := by
  rw [i16AsrImmT1, fails_bind_of_ok (getReg_of_lt hm)]
  simp [shl_pred_eq_error_iff h, sar_eq_error_iff, h]

theorem fails_i16LsrImmT1_iff (hm : Rm.toNat < 16) (h : imm.toNat < 32) :
    Fails .shift (i16LsrImmT1 Rd Rm imm) s ↔ imm = 0 := by
  rw [i16LsrImmT1, fails_bind_of_ok (getReg_of_lt hm)]
  simp [shl_pred_eq_error_iff h, shr_eq_error_iff, h]

theorem fails_i32LsrImmT2_iff (hm : Rm.toNat < 16) (h : imm.toNat < 32) :
    Fails .shift (i32LsrImmT2 Rd Rm imm S) s ↔ imm = 0 := by
  rw [i32LsrImmT2, fails_bind_of_ok (getReg_of_lt hm)]
  simp [shl_pred_eq_error_iff h, shr_eq_error_iff, h]

-- The remaining computations that may fail do so for other reasons.

theorem relativeBranchTarget_ne_shift {pc imm : Word} {bits : Byte} (h₀ : 1 ≤ bits.toNat)
    (h : bits.toNat < 32) : relativeBranchTarget pc imm bits ≠ .error .shift := by
  have hp : (bits.toNat - 1 : Int) = (bits.toNat - 1 : Nat) := by omega
  have hs : bits.toNat - 1 < 32 := by omega
  rw [relativeBranchTarget, hp, CInt.shl_of_lt hs, CInt.shl_of_lt h]
  simp only [bind, Except.bind]
  split <;> simp [pure, Except.pure]

theorem sdiv_ne_shift {x y : Word} : CInt.sdiv x y ≠ .error .shift := by
  unfold CInt.sdiv
  split <;> simp

@[simp]
theorem not_fails_branchBy {imm : Word} : ¬Fails .shift (branchBy imm) s := by
  simp [branchBy, branch, pure, Except.pure]

@[simp]
theorem not_fails_withPc {registerList : BitVec 16} {P : Bool} :
    ¬Fails .shift (withPc registerList P) s := by
  unfold withPc
  split
  case isTrue  => rw [fails_bind_of_ok rfl]; exact not_fails_pure
  case isFalse => exact not_fails_pure

@[simp]
theorem fails_whenInstalled {α : Type} {f : Option α} {call : α → Emu U Unit} {e : Undefined} :
    Fails e (whenInstalled f call) s ↔ ∃ g, f = some g ∧ Fails e (call g) s := by
  cases f <;> simp [whenInstalled]

-- An operand may be shifted by a constant. Its count is not zero for LSR and ROR.
def ShiftsOperand (a : Args) : Prop :=
  a.uint8 .type = typeLsr ∨ a.uint8 .type = typeRor → a.uint8 .imm ≠ 0

-- The counts of all shifts that the handler of an encoding makes are in range.
def ShiftsDefined (v : Variant) (a : Args) (cpu : Cpu) : Prop :=
  match v with
  | .asrImmT1 | .lsrImmT1 | .lsrImmT2 | .rorImmT1 =>
    a.uint8 .imm ≠ 0
  | .lslRegT1 =>
    ((cpu.regAt <| a.uint8 .Rm).setWidth 8).toNat < 32
  | .lslRegT2 =>
    ((cpu.regAt <| a.uint8 .Rn).setWidth 8).toNat < 32
  | .lsrRegT1 =>
    (cpu.regAt <| a.uint8 .Rm).toNat < 32
  | .lsrRegT2 =>
    1 ≤ (cpu.regAt <| a.uint8 .Rm).toNat ∧ (cpu.regAt <| a.uint8 .Rm).toNat < 32
  | .adcRegT2 | .addSPrT3 | .addRegT3 | .mvnRegT2 | .ornRegT1 | .orrRegT2 | .rsbRegT1 | .subRegT2 =>
    ShiftsOperand a
  | .andRegT2 | .bicRegT2 | .eorRegT2 =>
    a.uint8 .Rd ≠ regPc → ShiftsOperand a
  | _ => True

-- The encodings whose handlers make shifts with counts that are not constant.
def hasShift : Variant → Bool
  | .asrImmT1 | .lsrImmT1 | .lsrImmT2 | .rorImmT1 | .lslRegT1 | .lslRegT2 | .lsrRegT1 | .lsrRegT2
  | .adcRegT2 | .addSPrT3 | .addRegT3 | .mvnRegT2 | .ornRegT1 | .orrRegT2 | .rsbRegT1 | .subRegT2
  | .andRegT2 | .bicRegT2 | .eorRegT2 | .lslImmT1 | .lslImmT2 | .bfiT1 | .ubfxT1 | .ldrRegT2
  | .strRegT2 | .ldrbRegT2 | .popT3 | .ldmT1 => true
  | _ => false

-- The numbers that the fields of these encodings have room for.
def operandBound : Var → Nat
  | .Rd | .Rn | .Rm | .Rdn | .Rt => 16
  | .imm | .msb | .width         => 32
  | _                            => 256

-- The handlers of the other encodings make no shift with a count that is not constant.
theorem not_fails_shift (hh : emulationCallbacks host v = some handler) (hs : hasShift v = false) :
    ¬Fails .shift (handler a) s := by
  cases v
  case itT1   => cases hh; simp [i16ItT1, Fails]
  case uxtbT2 => cases hh; simp +contextual [i32UxtbT2, CInt.shl]
  case bT1 | bT2 | bT3 | cbnzT1 =>
    cases hh
    simp [i16BT1, i16BT2, i32BT3, i16CbnzT1, branch, relativeBranchTarget_ne_shift]
  all_goals cases hs
  all_goals cases hh
  any_goals exact not_fails_pure
  all_goals
    simp only [fails_bind, not_fails_getReg, not_fails_setReg, not_fails_setMovCondCode,
      not_fails_arithmetic, not_fails_setSubCondCode, not_fails_ldr, not_fails_setAdvancePc,
      not_fails_logical, not_fails_writeback, not_fails_str, not_fails_setAddCondCode,
      not_fails_indexed, not_fails_strb, not_fails_storeRegisters, not_fails_ldrb,
      not_fails_getPsr, fails_checked, not_fails_withPc, not_fails_loadRegisters,
      fails_ite, fails_when, not_fails_strh, not_fails_literal,
      not_fails_ldrh, not_fails_setPsr, not_fails_read16, not_fails_memptr, not_fails_callHost,
      fails_whenInstalled, fails_move, fails_map, not_fails_pure, and_false, or_self,
      exists_false, ite_self, not_false_eq_true, implies_true, bind_pure_comp, syscall, callHost',
      sdiv_ne_shift, i32AdcImmT1, i16AddSPiT1, i32AddSPiT3, i16AddSPrT1, i16AddImmT1, i16AddImmT2,
      i32AddImmT3, i16AddRegT1, i16AddRegT2, i32RsbImmT2, i16SubImmT1, i16SubImmT2, i32SubImmT3,
      i32SubImmT4, i16SubRegT1, i16CmpImmT1, i32CmpImmT2, i16CmpRegT1, i16CmpRegT2, i32TstImmT1,
      i16TstRegT1, i32AndImmT1, i16AndRegT1, i32BicImmT1, i32EorImmT1, i16EorRegT1, i32OrrImmT1,
      i16OrrRegT1, i16MovImmT1, i32MovImmT2, i32MovImmT3, i16MovRegT1, i16MovRegT2, i32MovtT1,
      i32MvnImmT1, i16MvnRegT1, i32ClzT1, i16SxtbT1, i16UxtbT1, i16UxthT1, i32MulT2, i32SdivT1,
      i32UmullT1, i16LdrImmT1, i16LdrImmT2, i32LdrImmT3, i32LdrImmT4, i16LdrLitT1, i32LdrLitT2,
      i16LdrRegT1, i16LdrbImmT1, i32LdrbImmT2, i32LdrbImmT3, i16LdrbRegT1, i32LdrdImmT1,
      i16LdrhImmT1, i32LdrhImmT2, i16StrImmT1, i16StrImmT2, i32StrImmT3, i32StrImmT4, i16StrRegT1,
      i16StrbImmT1, i32StrbImmT2, i32StrbImmT3, i16StrbRegT1, i32StrbRegT2, i32StrdImmT1,
      i16StrhImmT1, i32StrhImmT2, i32LdmT2, i16PopT1, i32PopT2, i16PushT1, i32PushT2, i16StmT1,
      i32StmT2, i32StmdbT1, i16BxT1, i32TbbT1, i16BkptT1, i32MsrT1]

theorem shiftsDefined_of_not_hasShift {cpu : Cpu} (hs : hasShift v = false) :
    ShiftsDefined v a cpu := by
  cases v <;> first | exact trivial | cases hs

theorem fails_shift_iff (hh : emulationCallbacks host v = some handler)
    (hb : hasShift v → ∀ x, (a.uint8 x).toNat < operandBound x) :
    Fails .shift (handler a) s ↔ ¬ShiftsDefined v a s.emuCtx.cpu := by
  by_cases hs : hasShift v = false
  case pos =>
    exact iff_of_false (not_fails_shift hh hs) (not_not_intro <| shiftsDefined_of_not_hasShift hs)
  rw [Bool.not_eq_false] at hs
  cases v
  case asrImmT1 => cases hh; simp [fails_i16AsrImmT1_iff (hb rfl .Rm) (hb rfl .imm), ShiftsDefined]
  case lsrImmT1 => cases hh; simp [fails_i16LsrImmT1_iff (hb rfl .Rm) (hb rfl .imm), ShiftsDefined]
  case lsrImmT2 => cases hh; simp [fails_i32LsrImmT2_iff (hb rfl .Rm) (hb rfl .imm), ShiftsDefined]
  case lslRegT1 => cases hh; simp [fails_i16LslRegT1_iff (hb rfl .Rdn) (hb rfl .Rm), ShiftsDefined]
  case lslRegT2 => cases hh; simp [fails_i32LslRegT2_iff (hb rfl .Rn) (hb rfl .Rm), ShiftsDefined]
  case lsrRegT1 => cases hh; simp [fails_i16LsrRegT1_iff (hb rfl .Rdn) (hb rfl .Rm), ShiftsDefined]
  case lsrRegT2 => cases hh; exact fails_i32LsrRegT2_iff (hb rfl .Rn) (hb rfl .Rm)
  case rorImmT1 =>
    cases hh
    simp [i32RorImmT1, move, fails_shiftReg_iff (hb rfl .Rm) (hb rfl .imm), ShiftsDefined]
  case mvnRegT2 =>
    cases hh
    have hi : ((a.int32 .imm).setWidth 8).toNat < 32 := hb rfl .imm
    simp [i32MvnRegT2, move, fails_shiftReg_iff (hb rfl .Rm) hi, ShiftsDefined, ShiftsOperand]
    exact fun _ => Iff.rfl
  case adcRegT2 | addSPrT3 | addRegT3 | ornRegT1 | orrRegT2 | rsbRegT1 | subRegT2 | andRegT2
    | bicRegT2 | eorRegT2 =>
    cases hh
    simp [i32AdcRegT2, i32AddSPrT3, i32AddRegT3, i32OrnRegT1, i32OrrRegT2, i32RsbRegT1, i32SubRegT2,
      i32AndRegT2, i32BicRegT2, i32EorRegT2,
      fails_shiftReg_iff (hb rfl .Rm) (hb rfl .imm), ShiftsDefined, ShiftsOperand]
  case lslImmT2 =>
    cases hh
    have hi : (a.uint8 .imm).toNat < 32 := hb rfl .imm
    simp [i32LslImmT2, move, fails_shiftReg_lsl_iff (hb rfl .Rm), hi, ShiftsDefined]
  case lslImmT1 | ldrRegT2 | strRegT2 | ldrbRegT2 =>
    cases hh
    have hi : (a.uint8 .imm).toNat < 32 := hb rfl .imm
    have hi' : (a.uint8 .imm).toNat < 64 := by omega
    simp [i16LslImmT1, i32LdrRegT2, i32StrRegT2, i32LdrbRegT2, ldr, str,
      barrelShift_eq_error_iff hi, shl_eq_error_iff, hi, hi',
      ShiftsDefined, typeLsl, typeLsr, typeRor]
  case bfiT1 | ubfxT1 =>
    cases hh
    have hi : (a.uint8 .imm).toNat < 32 := hb rfl .imm
    have hm : (a.uint8 .msb).toNat < 32 := hb rfl .msb
    have hw : (a.uint8 .width).toNat < 32 := hb rfl .width
    simp [i32BfiT1, i32UbfxT1, shl_eq_error_iff, shr_eq_error_iff, hi, hm, hw, ShiftsDefined]
  case popT3 | ldmT1 =>
    cases hh
    have ht : (a.uint8 .Rt).toNat < 16 := hb rfl .Rt
    have hn : (a.uint8 .Rn).toNat < 16 := hb rfl .Rn
    have ht' : (a.uint8 .Rt).toNat < 32 := by omega
    have hn' : (a.uint8 .Rn).toNat < 32 := by omega
    simp [i32PopT3, i16LdmT1, shl_eq_error_iff, ht', hn', ShiftsDefined]
  all_goals cases hs

end Emulation
