import Thumb2Sim.Decoder.Theorems.Offsets
import Thumb2Sim.Emulation.Theorems.Handlers
import Thumb2Sim.Emulation.Theorems.Encodings
import Thumb2Sim.Execution.Basic

open Program Emu Emulation

-- The number of halfwords is restored by the extension to 32 bits.
section Offset

variable {w : Nat} {q : Int}

theorem signExtend_ofInt (h₁ : -2 ^ w ≤ q) (h₂ : q < 2 ^ w) :
    (BitVec.ofInt (w + 1) q).signExtend 32 = BitVec.ofInt 32 q := by
  have hp : (2 : Int) ^ (w + 1) = 2 * 2 ^ w := by rw [pow_succ, mul_comm]
  have hq : (BitVec.ofInt (w + 1) q).toInt = q := by
    rw [BitVec.toInt_ofInt]
    apply Int.bmod_eq_of_le <;> push_cast <;> omega
  rw [BitVec.signExtend, hq]

theorem setWidth_ofInt {v : Nat} (h₁ : 0 ≤ q) (h₂ : q < 2 ^ w) (h : w ≤ v) :
    (BitVec.ofInt w q).setWidth v = BitVec.ofInt v q := by
  lift q to Nat using h₁
  have hq : q < 2 ^ w := by exact_mod_cast h₂
  have hv : q < 2 ^ v := hq.trans_le <| Nat.pow_le_pow_right Nat.two_pos h
  apply BitVec.eq_of_toNat_eq
  simp [BitVec.toNat_setWidth, Nat.mod_eq_of_lt, hq, hv]

theorem two_mul_ofInt {offset : Int} (h : 2 ∣ offset) :
    2 * BitVec.ofInt 32 (offset / 2) = BitVec.ofInt 32 offset := by
  have ht : (2 : Word) = BitVec.ofInt 32 2 := rfl
  rw [ht, ← BitVec.ofInt_mul, Int.mul_ediv_cancel' h]

end Offset

namespace BranchInsn

variable {U : Type} {host : Callbacks U} {s : InsnEmuCtx U} {i : BranchInsn} {offset : Int}

def bT3Imm : Argument where
  type      := .int32
  var       := .imm
  extension := .thumbSignExtend20
  pieces    := [⟨0x4000000, 7⟩, ⟨0x3f0000, 5⟩, ⟨0x7ff, 0⟩, ⟨0x2000, -4⟩, ⟨0x800, -7⟩]

def bT4Imm : Argument where
  type      := .int32
  var       := .imm
  extension := .thumbSignExtend24EOR
  pieces    := [⟨0x3ff0000, 5⟩, ⟨0x4000000, 3⟩, ⟨0x7ff, 0⟩, ⟨0x2000, -9⟩, ⟨0x800, -10⟩]

-- The branch of `decode_insn` for the instruction.
def opcode : BranchInsn → Opcode
  | bT1 ..    => ⟨.bT1, ⟨0xf0000000, 0xd0000000⟩, 2, [
      ⟨.uint8, .imm, .plain, [⟨0xff0000, 16⟩]⟩, ⟨.uint8, .cond, .plain, [⟨0xf000000, 24⟩]⟩]⟩
  | bT2 ..    => ⟨.bT2, ⟨0xf8000000, 0xe0000000⟩, 2, [⟨.uint16, .imm, .plain, [⟨0x7ff0000, 16⟩]⟩]⟩
  | bT3 ..    => ⟨.bT3, ⟨0xf800d000, 0xf0008000⟩, 4, [
      bT3Imm, ⟨.uint8, .cond, .plain, [⟨0x3c00000, 22⟩]⟩]⟩
  | bT4       => ⟨.bT4, ⟨0xf800d000, 0xf0009000⟩, 4, [bT4Imm]⟩
  | blT1      => ⟨.blT1, ⟨0xf800d000, 0xf000d000⟩, 4, [bT4Imm]⟩
  | cbnzT1 .. => ⟨.cbnzT1, ⟨0xf5000000, 0xb1000000⟩, 2, [
      ⟨.uint8, .Rn, .plain, [⟨0x70000, 16⟩]⟩,
      ⟨.uint8, .imm, .plain, [⟨0x2000000, 20⟩, ⟨0xf80000, 19⟩]⟩,
      ⟨.bool, .op, .plain, [⟨0x8000000, 27⟩]⟩]⟩

-- The conditions of `b_T1`, `b_T3` and `cbnz_T1`.
def taken (s : InsnEmuCtx U) : BranchInsn → Bool
  | bT1 cond _ | bT3 cond => condSatisfied s.emuCtx.cpu.psr (cond.setWidth 8)
  | cbnzT1 op Rn _        => (s.emuCtx.cpu.reg (lowReg Rn) == 0) ^^ op
  | bT2 _ | bT4 | blT1    => true

-- `bl_T1` leaves the return address in LR.
def linked (s : InsnEmuCtx U) : BranchInsn → InsnEmuCtx U
  | blT1 => s.setReg 14 <| (s.emuCtx.pc + 4) ||| 1
  | _    => s

-- The effect of a branch by the given number of bytes.
def result (offset : Int) (i : BranchInsn) (s : InsnEmuCtx U) : InsnEmuCtx U :=
  if i.taken s then
    { (i.linked s).setReg 15 (s.emuCtx.pc + 4 + BitVec.ofInt 32 offset) with advancePc := false }
  else
    s

def isBranch (v : Variant) : Bool :=
  v ∈ [.bT1, .bT2, .bT3, .bT4, .blT1, .cbnzT1]

theorem opcodes_filter_isBranch : opcodes.filter (isBranch ·.variant) =
    [opcode (bT2 0), opcode (cbnzT1 false 0 0), opcode (bT1 0 0), opcode (bT3 0), opcode bT4,
      opcode blT1] := by
  decide +kernel

-- There is one branch of `decode_insn` for each of the encodings.
theorem opcodes_filter : opcodes.filter (·.variant = i.variant) = [i.opcode] := by
  have hf : opcodes.filter (·.variant = i.variant) =
      (opcodes.filter (isBranch ·.variant)).filter (·.variant = i.variant) := by
    rw [List.filter_filter]
    refine List.filter_congr fun o _ => ?_
    by_cases h : o.variant = i.variant
    case pos => cases i <;> simp [h, variant, isBranch]
    case neg => simp [h]
  rw [hf, opcodes_filter_isBranch]
  cases i <;> rfl

variable {cond : BitVec 4} {next : BitVec 16} {op : Bool} {Rn : Fin 8} {o : Opcode} {w : Word}

-- The calls of the handlers with what the decoder takes out of the fields.

theorem callHandler_bT1 {imm : BitVec 8} :
    (bT1 cond next).opcode.callHandler (0b1101#4 ++ cond ++ imm ++ next)
      (some (emulationCallbacks host)) = i16BT1 imm (cond.setWidth 8) := by
  have ha (w : Word) : (bT1 cond next).opcode.args w = .ok (Function.update (Function.update
      (fun _ => 0) .imm (CType.uint8.convert <| 0 ||| (w &&& 0xff0000) >>> 16))
      .cond (CType.uint8.convert <| 0 ||| (w &&& 0xf000000) >>> 24)) := rfl
  have ⟨hi, hc, _⟩ := bT1Word_fields cond next imm
  rw [Opcode.callHandler_of_args rfl (ha _), hi, hc]
  simp [Args.uint8, CType.convert]

theorem callHandler_bT2 {imm : BitVec 11} :
    (bT2 next).opcode.callHandler (0b11100#5 ++ imm ++ next) (some (emulationCallbacks host)) =
      i16BT2 (imm.setWidth 16) := by
  have ha (w : Word) : (bT2 next).opcode.args w = .ok (Function.update (fun _ => 0) .imm
      (CType.uint16.convert <| 0 ||| (w &&& 0x7ff0000) >>> 16)) := rfl
  have ⟨hi, _⟩ := bT2Word_fields next imm
  rw [Opcode.callHandler_of_args rfl (ha _), hi]
  simp [Args.uint16, CType.convert]

theorem value_of_extract {a : Argument} {x y : Word} (he : a.extract w = x)
    (hx : applyExtension a.extension x = .ok y) : a.value w = .ok (a.type.convert y) := by
  rw [Argument.value, he, hx]
  rfl

theorem callHandler_bT3 {imm : BitVec 20} :
    (bT3 cond).opcode.callHandler (bT3Word cond imm) (some (emulationCallbacks host)) =
      i32BT3 (imm.signExtend 32) (cond.setWidth 8) := by
  have ⟨hi, hc, _⟩ := bT3Word_fields cond imm
  have hv : bT3Imm.value (bT3Word cond imm) = .ok (imm.signExtend 32) :=
    value_of_extract hi <| thumbSignExtend20_setWidth imm
  have ha : (bT3 cond).opcode.args (bT3Word cond imm) = .ok (Function.update (Function.update
      (fun _ => 0) .imm (imm.signExtend 32)) .cond <|
      CType.uint8.convert <| 0 ||| (bT3Word cond imm &&& 0x3c00000) >>> 22) := by
    rw [Opcode.args, opcode, List.foldlM_cons, hv]
    rfl
  rw [Opcode.callHandler_of_args rfl ha, hc]
  simp [Args.uint8, Args.int32, CType.convert]

-- The handlers of `b_T4` and `bl_T1` have the offset as their only parameter.
theorem args_bT4Word {imm : BitVec 24} {link : Bool} (ho : o.arguments = [bT4Imm]) :
    o.args (bT4Word link imm) =
      .ok (Function.update (fun _ => 0) .imm (imm.signExtend 32)) := by
  have hv : bT4Imm.value (bT4Word link imm) = .ok (imm.signExtend 32) :=
    value_of_extract (bT4Word_offset link imm) <| thumbSignExtend24EOR_bT4Raw imm
  rw [Opcode.args, ho, List.foldlM_cons, hv]
  rfl

theorem callHandler_bT4 {imm : BitVec 24} :
    bT4.opcode.callHandler (bT4Word false imm) (some (emulationCallbacks host)) =
      i32BT4 (imm.signExtend 32) := by
  have ha : bT4.opcode.args (bT4Word false imm) = _ := args_bT4Word rfl
  rw [Opcode.callHandler_of_args rfl ha]
  rfl

theorem callHandler_blT1 {imm : BitVec 24} :
    blT1.opcode.callHandler (bT4Word true imm) (some (emulationCallbacks host)) =
      i32BlT1 (imm.signExtend 32) := by
  have ha : blT1.opcode.args (bT4Word true imm) = _ := args_bT4Word rfl
  rw [Opcode.callHandler_of_args rfl ha]
  rfl

theorem callHandler_cbnzT1 {imm : BitVec 6} :
    (cbnzT1 op Rn next).opcode.callHandler (cbnzT1Word op Rn next imm)
      (some (emulationCallbacks host)) = i16CbnzT1 (lowRegNo Rn) (imm.setWidth 8) op := by
  have ha (w : Word) : (cbnzT1 op Rn next).opcode.args w = .ok (Function.update (Function.update
      (Function.update (fun _ => 0) .Rn (CType.uint8.convert <| 0 ||| (w &&& 0x70000) >>> 16))
      .imm (CType.uint8.convert <| 0 ||| (w &&& 0x2000000) >>> 20 ||| (w &&& 0xf80000) >>> 19))
      .op (CType.bool.convert <| 0 ||| (w &&& 0x8000000) >>> 27)) := rfl
  have ⟨hi, hn, ho, _⟩ := cbnzT1Word_fields next op Rn imm
  have hr : ∀ r : Fin 8, BitVec.setWidth 8 (CType.uint8.convert (0 ||| BitVec.ofNat 32 r)) =
      lowRegNo r := by
    decide
  have hb : decide (CType.bool.convert (0 ||| (BitVec.ofBool op).setWidth 32) ≠ 0) = op := by
    cases op <;> rfl
  rw [Opcode.callHandler_of_args rfl (ha _), hi, hn, ho]
  change i16CbnzT1 (BitVec.setWidth 8 <| CType.uint8.convert (0 ||| BitVec.ofNat 32 Rn))
    (BitVec.setWidth 8 <| CType.uint8.convert <| imm.setWidth 32)
    (decide <| CType.bool.convert (0 ||| (BitVec.ofBool op).setWidth 32) ≠ 0) = _
  rw [hr, hb]
  simp [CType.convert]

section Half

variable {w : Nat} {bits : Byte} {c : Bool}

-- The number of halfwords for an offset in bytes, behind the extension.
theorem signExtend_half (hd : 2 ∣ offset) (hr : -2 ^ (w + 1) ≤ offset ∧ offset < 2 ^ (w + 1)) :
    (BitVec.ofInt (w + 1) (offset / 2)).signExtend 32 = BitVec.ofInt 32 (offset / 2) := by
  have hp : (2 : Int) ^ (w + 1) = 2 * 2 ^ w := by rw [pow_succ, mul_comm]
  exact signExtend_ofInt (by omega) (by omega)

theorem branch_half (hb : bits.toNat = w + 1) (hw : w + 1 ≤ 31) (hd : 2 ∣ offset)
    (hr : -2 ^ (w + 1) ≤ offset ∧ offset < 2 ^ (w + 1)) :
    branch (U := U) (fun pc =>
      relativeBranchTarget pc ((BitVec.ofInt (w + 1) (offset / 2)).setWidth 32) bits) =
    branchBy (BitVec.ofInt 32 (offset / 2)) := by
  rw [branch_eq_branchBy hb (by omega) hw, signExtend_half hd hr]

theorem branchBy_half (h : 2 ∣ offset) : branchBy (BitVec.ofInt 32 (offset / 2)) s = .ok ((),
    { s.setReg 15 (s.emuCtx.pc + 4 + BitVec.ofInt 32 offset) with advancePc := false }) := by
  have hb : branchBy (BitVec.ofInt 32 (offset / 2)) s = .ok ((),
      { s.setReg 15 (s.emuCtx.pc + 2 * BitVec.ofInt 32 (offset / 2) + 4) with
        advancePc := false }) := rfl
  rw [hb, two_mul_ofInt h, BitVec.add_assoc, BitVec.add_comm _ 4, ← BitVec.add_assoc]

theorem when_branchBy_half (h : 2 ∣ offset) :
    when c (branchBy (BitVec.ofInt 32 (offset / 2))) s = .ok ((), if c then
      { s.setReg 15 (s.emuCtx.pc + 4 + BitVec.ofInt 32 offset) with advancePc := false }
      else s) := by
  cases c
  case false => rfl
  case true => exact branchBy_half h

end Half

theorem callHandler_result (h : i.Reaches offset) :
    i.opcode.callHandler (i.word offset) (some (emulationCallbacks host)) s =
      .ok ((), i.result offset s) := by
  have ⟨hd, hr⟩ := h
  have hp : getPsr s = .ok (s.emuCtx.cpu.psr, s) := rfl
  cases i
  case bT1 cond next =>
    rw [word, callHandler_bT1, i16BT1, bind_of_ok hp, branch_half rfl (by decide) hd hr]
    exact when_branchBy_half hd
  case bT2 next =>
    have hz : ((BitVec.ofInt 11 (offset / 2)).setWidth 16).setWidth 32 =
        (BitVec.ofInt 11 (offset / 2)).setWidth 32 := by simp
    rw [word, callHandler_bT2, i16BT2, hz, branch_half rfl (by decide) hd hr]
    exact branchBy_half hd
  case bT3 cond =>
    rw [word, callHandler_bT3, i32BT3, bind_of_ok hp, signExtend_half hd hr]
    exact when_branchBy_half hd
  case bT4 =>
    rw [word, callHandler_bT4, i32BT4, signExtend_half hd hr]
    exact branchBy_half hd
  case blT1 =>
    have hl : i32BlT1 (BitVec.ofInt 32 (offset / 2)) s =
        branchBy (BitVec.ofInt 32 (offset / 2)) (blT1.linked s) := rfl
    have hp : (blT1.linked s).emuCtx.pc = s.emuCtx.pc := rfl
    rw [word, callHandler_blT1, signExtend_half hd hr, hl, branchBy_half hd, hp]
    rfl
  case cbnzT1 op Rn next =>
    -- The function takes a number with seven bits, so that the offset is not negative for it.
    have hr : 0 ≤ offset ∧ offset < 2 ^ 7 := hr
    have hw : ((BitVec.ofInt 6 (offset / 2)).setWidth 8).setWidth 32 =
        (BitVec.ofInt (6 + 1) (offset / 2)).setWidth 32 := by
      rw [setWidth_ofInt, setWidth_ofInt, setWidth_ofInt] <;> omega
    have hn : getReg (lowRegNo Rn) s = .ok (s.emuCtx.cpu.reg (lowReg Rn), s) := getReg_eq
    rw [word, callHandler_cbnzT1, i16CbnzT1, bind_of_ok hn, hw,
      branch_half rfl (by decide) hd (by omega)]
    exact when_branchBy_half hd

-- The word is one of those that the branch of `decode_insn` is for.
theorem word_matches : i.opcode.pattern.Matches (i.word offset) := by
  cases i
  case bT1    => exact bT1Word_fields _ _ _ |>.right.right
  case bT2    => exact bT2Word_fields _ _ |>.right
  case bT3    => exact bT3Word_fields _ _ |>.right.right
  case bT4    => exact bT4Word_form false _
  case blT1   => exact bT4Word_form true _
  case cbnzT1 => exact cbnzT1Word_fields _ _ _ _ |>.right.right.right

-- A branch that is not taken leaves PC to the advance behind the instruction.
theorem result_nextPc {n : Nat} (ha : s.advancePc) :
    (i.result offset s).nextPc n = if i.taken s then s.emuCtx.pc + 4 + BitVec.ofInt 32 offset else
      s.emuCtx.pc + BitVec.ofNat 32 n := by
  rw [result]
  split
  case isTrue => rfl
  case isFalse => rw [InsnEmuCtx.nextPc, if_pos ha]

-- For every offset within its reach, the branch of `decode_insn` extracts what takes the handler
-- there.
theorem branch_reaches {ctx : EmuCtx U} (h : i.Reaches offset) :
    opcodes.filter (·.variant = i.variant) = [i.opcode] ∧
    i.opcode.pattern.Matches (i.word offset) ∧
    i.opcode.callHandler (i.word offset) (some (emulationCallbacks host)) ctx.insnCtx =
      .ok ((), i.result offset ctx.insnCtx) ∧
    (i.result offset ctx.insnCtx).nextPc i.opcode.length =
      if i.taken ctx.insnCtx then ctx.pc + 4 + BitVec.ofInt 32 offset else
        ctx.pc + BitVec.ofNat 32 i.opcode.length :=
  ⟨opcodes_filter, word_matches, callHandler_result h, result_nextPc rfl⟩

-- `bl` backwards by 256 bytes
theorem branch_reaches_bl :
    let ctx := (cpuWith []).emuCtx
    let w   := blT1.word (-256)
    w = 0xf7ffff80 ∧ opcodes.filter (·.variant = blT1.variant) = [blT1.opcode] ∧
    blT1.opcode.pattern.Matches w ∧
    blT1.opcode.callHandler w (some (emulationCallbacks noHost)) ctx.insnCtx =
      .ok ((), blT1.result (-256) ctx.insnCtx) ∧
    (blT1.result (-256) ctx.insnCtx).nextPc blT1.opcode.length =
      if blT1.taken ctx.insnCtx then ctx.pc + 4 + BitVec.ofInt 32 (-256) else
        ctx.pc + BitVec.ofNat 32 blT1.opcode.length :=
  ⟨by decide, branch_reaches ⟨by decide, by decide⟩⟩

end BranchInsn
