import Mathlib.Tactic.IntervalCases
import Thumb2Sim.Decoder.Theorems.Literals
import Thumb2Sim.Emulation.Theorems.StoreMultiple
import Thumb2Sim.Lib.Bits

open Program Emu Emulation

-- The instructions that have PC as their destination, except for the branches.
inductive WritesPc (a : Args) : Variant → Prop
  | movRegT1 : a.uint8 .Rd = regPc → WritesPc a .movRegT1
  | addRegT2 : a.uint8 .Rdn = regPc → WritesPc a .addRegT2
  | ldrImmT3 : a.uint8 .Rt = regPc → WritesPc a .ldrImmT3
  | ldrImmT4 : a.uint8 .Rt = regPc → WritesPc a .ldrImmT4
  | ldrRegT2 : a.uint8 .Rt = regPc → WritesPc a .ldrRegT2
  | ldrLitT2 : a.uint8 .Rt = regPc → WritesPc a .ldrLitT2
  | ldmT2    : a.bool .P → WritesPc a .ldmT2
  | popT1    : a.bool .P → WritesPc a .popT1
  | popT2    : a.bool .P → WritesPc a .popT2
  | popT3    : a.uint8 .Rt = regPc → WritesPc a .popT3

section

variable {U : Type}

-- The last one of the words that a list of registers is loaded from.
def lastWord (base : RegNo) (registers : BitVec 16) : Emu U Word := do
  read32 ((← getReg base) + 4 * BitVec.ofNat 32 ((regsOf registers).length - 1))

-- The registers of `ldm_T2`.
def ldmRegisters (a : Args) : BitVec 16 :=
  (PopInsn.popT2 (a.uint16 .registerList) (a.bool .P) (a.bool .M)).registers

-- The word that the instruction has for PC, be it computed or loaded.
def pcWord (a : Args) : Variant → Emu U Word
  | .movRegT1 => do
    return (← getReg (a.uint8 .Rm)) + if a.uint8 .Rm = regPc then 4 else 0
  | .addRegT2 => do
    return (← getReg regPc) + (← getReg (a.uint8 .Rm))
  | .ldrImmT3 => do
    read32 ((← getReg (a.uint8 .Rn)) + (a.uint16 .imm).setWidth 32)
  | .ldrImmT4 => do
    read32 (← Emu.indexed (a.uint8 .Rn) ((a.uint8 .imm).setWidth 32) (a.bool .P) (a.bool .U))
  | .ldrRegT2 => do
    let Rn ← getReg (a.uint8 .Rn)
    let Rm ← getReg (a.uint8 .Rm)
    read32 (Rn + (← checked <| CInt.shl Rm (a.uint8 .imm).toNat))
  | .ldrLitT2 => do
    read32 (← literal (offset (a.bool .U) <| (a.uint16 .imm).setWidth 32))
  | .ldmT2    => lastWord (a.uint8 .Rn) (ldmRegisters a)
  | .popT1    => lastWord regSp (PopInsn.popT1 (a.uint8 .registerList) (a.bool .P)).registers
  | .popT2    => lastWord regSp (ldmRegisters a)
  | .popT3    => do read32 (← getReg regSp)
  | _         => getReg regPc

-- The exact condition under which PC is the word with bit 0 cleared behind the step. Bit 0 is
-- cleared by nothing but the loads of lists of registers. Behind that, `ldm_T2` may write the
-- address back to PC. The other instructions also add their length, except for `ldr_lit_T2`.
def JumpsTo (ctx : EmuCtx U) (a : Args) (x : Word) : Variant → Prop
  | .popT1 | .popT2 | .popT3 => True
  | .ldmT2    => a.bool .W → a.uint8 .Rn = regPc →
    ctx.pc + 4 * BitVec.ofNat 32 (regsOf (ldmRegisters a)).length = x &&& ~~~1
  | .ldrLitT2 => x &&& 1 = 0
  | _         => False

variable {host : Callbacks U} {ctx ctx' : EmuCtx U} {s s' : InsnEmuCtx U} {a : Args} {v : Variant}
  {x addr : Word} {r Rn Rm : RegNo} {n : Nat} {registers : BitVec 16} {b : Fin 16} {wb : Bool}

-- Bit 0 and the other ones.

theorem and_one_cases (x : Word) : x &&& 1 = 0 ∨ x &&& 1 = 1 := by
  have hx : x &&& 1 = (BitVec.ofBool (x.getLsbD 0)).setWidth 32 :=
    BitVec.and_one_eq_setWidth_ofBool_getLsbD
  rw [hx]
  cases x.getLsbD 0
  case false => exact .inl rfl
  case true  => exact .inr rfl

theorem add_length_ne (hn : n = 2 ∨ n = 4) : x + BitVec.ofNat 32 n ≠ x &&& ~~~1 := by
  intro h
  have hx := Bits.and_not_add_and x 1
  rw [← h, BitVec.add_assoc] at hx
  have hz : BitVec.ofNat 32 n + (x &&& 1) = 0 := by simpa using hx
  rcases hn with rfl | rfl <;> rcases and_one_cases x with h₁ | h₁ <;> rw [h₁] at hz <;>
    exact absurd hz (by decide)

theorem eq_and_not_one_iff : x = x &&& ~~~1 ↔ x &&& 1 = 0 := by
  have hx := Bits.and_not_add_and x 1
  constructor
  case mp =>
    intro h
    rw [← h] at hx
    simpa using hx
  case mpr =>
    intro h
    rw [h] at hx
    exact (hx.symm.trans <| BitVec.add_zero _)

theorem exists_regNo (h : getReg r s = .ok (x, s')) :
    s' = s ∧ ∃ i : Fin 16, r = regNo i ∧ x = s.emuCtx.cpu.reg i := by
  by_cases hr : r.toNat < 16
  case neg => simp [getReg, hr] at h
  case pos =>
    have hi : r = regNo ⟨r.toNat, hr⟩ := BitVec.eq_of_toNat_eq (regNo_toNat ⟨r.toNat, hr⟩).symm
    rw [hi, getReg_eq] at h
    cases h
    exact ⟨rfl, _, hi, rfl⟩

theorem regsOf_pc (hp : registers.getLsbD (15 : Fin 16)) :
    (regsOf registers)[(regsOf registers).length - 1]? = some 15 := by
  have hs : List.finRange 16 = (List.finRange 15).map (Fin.castLE (by decide)) ++ [15] := by decide
  rw [regsOf, hs, List.filter_append, List.filter_cons, if_pos hp, List.filter_nil]
  simp

theorem loadRegisters_pc (hp : registers.getLsbD (15 : Fin 16))
    (h : loadRegisters (regNo b) registers wb s = .ok ((), s')) :
    ∃ x, s.emuCtx.addrSpace.read32 s.emuCtx.memory (s.emuCtx.cpu.reg b +
        4 * BitVec.ofNat 32 ((regsOf registers).length - 1)) = .ok x ∧ s'.advancePc = false ∧
      s'.emuCtx.pc = if wb ∧ b = 15 then
        s.emuCtx.pc + 4 * BitVec.ofNat 32 (regsOf registers).length else x &&& ~~~1 := by
  have hl := h
  rw [loadRegisters, bind_of_ok getReg_eq, bind_ok_iff] at hl
  obtain ⟨addr', t, hl, _⟩ := hl
  rw [← loadRegistersLoop_filter, range_filter] at hl
  obtain ⟨f, hf⟩ := loadRegistersLoop_words (fun _ => mem_regsOf.mp)
    ((List.nodup_finRange 16).filter _) hl
  have hw := hf _ _ (regsOf_pc hp)
  rw [loadRegisters_eq hf] at h
  cases h
  refine ⟨f 15, hw, ?_, ?_⟩
  · have ha : (s.loaded f (regsOf registers)).advancePc = false := by
      simp [InsnEmuCtx.loaded, mem_regsOf.mpr hp]
    cases wb <;> exact ha
  · have hx : (s.loaded f (regsOf registers)).emuCtx.cpu.reg 15 = f 15 &&& ~~~1 := by
      simp [InsnEmuCtx.loaded, loadedWord, mem_regsOf.mpr hp]
    cases wb
    case false => exact hx
    case true =>
      simp only [if_true, true_and, EmuCtx.pc, InsnEmuCtx.setReg_reg]
      by_cases hb : b = 15
      case pos => rw [if_pos hb, hb, Function.update_self]
      case neg => rw [if_neg hb, Function.update_of_ne (Ne.symm hb), hx]

-- The programs that leave the state as it is.
def Reads {α : Type} (m : Emu U α) : Prop :=
  ∀ s x s', m s = .ok (x, s') → s' = s

namespace Reads

variable {α β : Type} {m : Emu U Word}

theorem bind {m : Emu U α} {f : α → Emu U β} (hm : Reads m) (hf : ∀ x, Reads (f x)) :
    Reads (m >>= f) := by
  intro s y s' h
  obtain ⟨x, t, h₁, h₂⟩ := bind_ok_iff.mp h
  rw [hf x t y s' h₂, hm s x t h₁]

theorem pure (x : α) : Reads (pure x : Emu U α) := by
  intro s y s' h
  cases h
  rfl

theorem getReg : Reads (U := U) (getReg r) :=
  fun _ _ _ h => (exists_regNo h).left

theorem read32 : Reads (U := U) (read32 addr) := by
  intro s x s' h
  simp only [Emu.read32, load] at h
  cases hv : s.emuCtx.addrSpace.read32 s.emuCtx.memory addr <;> rw [hv] at h <;> cases h
  rfl

theorem checked (y : Except Undefined α) : Reads (checked y : Emu U α) := by
  intro s x s' h
  cases y <;> cases h
  rfl

theorem setReg_pc (hm : Reads m) (h : (m >>= setReg regPc) s = .ok ((), s')) :
    ∃ x, m s = .ok (x, s) ∧ s' = s.setReg 15 x := by
  obtain ⟨x, t, h₁, h₂⟩ := bind_ok_iff.mp h
  cases hm s x t h₁
  have hs : setReg (regNo 15) x s = .ok ((), s.setReg 15 x) := setReg_eq
  cases hs.symm.trans h₂
  exact ⟨x, h₁, rfl⟩

end Reads

theorem reads_pcWord (v : Variant) : Reads (U := U) (pcWord a v) := by
  unfold pcWord
  split
  case h_1 => exact .bind .getReg fun _ => .pure _
  case h_2 => exact .bind .getReg fun _ => .bind .getReg fun _ => .pure _
  case h_3 => exact .bind .getReg fun _ => .read32
  case h_4 => exact .bind (.bind .getReg fun _ => .pure _) fun _ => .read32
  case h_5 => exact .bind .getReg fun _ => .bind .getReg fun _ => .bind (.checked _) fun _ => .read32
  case h_6 => exact .bind (.bind .getReg fun _ => .pure _) fun _ => .read32
  case h_7 => exact .bind .getReg fun _ => .read32
  case h_8 => exact .bind .getReg fun _ => .read32
  case h_9 => exact .bind .getReg fun _ => .read32
  case h_10 => exact .bind .getReg fun _ => .read32
  case h_11 => exact .getReg

-- The handlers of the instructions that compute or load a single word.

theorem movRegT1_eq (hd : a.uint8 .Rd = regPc) : i16MovRegT1 (U := U) (a.uint8 .Rd) (a.uint8 .Rm) =
    pcWord a .movRegT1 >>= setReg regPc := by
  change _ = (getReg (a.uint8 .Rm) >>= fun v => pure (v + if a.uint8 .Rm = regPc then 4 else 0)) >>=
    setReg regPc
  rw [hd, i16MovRegT1, bind_assoc]
  refine bind_congr fun v => ?_
  rw [pure_bind]
  by_cases hr : a.uint8 .Rm = regPc
  case neg => simp [hr, Program.when]
  case pos =>
    funext s
    have hs (y : Word) (t : InsnEmuCtx U) : setReg regPc y t = .ok ((), t.setReg 15 y) :=
      setReg_eq (r := 15)
    have hg : getReg regPc (s.setReg 15 v) = .ok (v, s.setReg 15 v) := getReg_setReg (r := 15)
    simp only [hr, decide_true, if_true, Program.when]
    rw [bind_of_ok (hs v s), bind_of_ok hg, hs, hs]
    simp [InsnEmuCtx.setReg, EmuCtx.setReg]

theorem addRegT2_eq (hd : a.uint8 .Rdn = regPc) :
    i16AddRegT2 (U := U) (a.uint8 .Rdn) (a.uint8 .Rm) = pcWord a .addRegT2 >>= setReg regPc := by
  change _ = (do return (← getReg regPc) + (← getReg (a.uint8 .Rm))) >>= setReg regPc
  simp only [hd, i16AddRegT2, bind_assoc, pure_bind]

theorem ldrImmT3_eq (hd : a.uint8 .Rt = regPc) :
    i32LdrImmT3 (U := U) (a.uint8 .Rt) (a.uint8 .Rn) (a.uint16 .imm) =
      pcWord a .ldrImmT3 >>= setReg regPc := by
  change _ = (do read32 ((← getReg (a.uint8 .Rn)) + (a.uint16 .imm).setWidth 32)) >>= setReg regPc
  simp only [hd, i32LdrImmT3, ldr, bind_assoc]

theorem ldrRegT2_eq (hd : a.uint8 .Rt = regPc) :
    i32LdrRegT2 (U := U) (a.uint8 .Rt) (a.uint8 .Rn) (a.uint8 .Rm) (a.uint8 .imm) =
      pcWord a .ldrRegT2 >>= setReg regPc := by
  change _ = (do
    let Rn ← getReg (a.uint8 .Rn)
    let Rm ← getReg (a.uint8 .Rm)
    read32 (Rn + (← checked <| CInt.shl Rm (a.uint8 .imm).toNat))) >>= setReg regPc
  simp only [hd, i32LdrRegT2, ldr, bind_assoc]

theorem ldrImmT4_eq (hd : a.uint8 .Rt = regPc) :
    i32LdrImmT4 (U := U) (a.uint8 .Rt) (a.uint8 .Rn) (a.uint8 .imm) (a.bool .P) (a.bool .U)
        (a.bool .W) =
      (pcWord a .ldrImmT4 >>= setReg regPc) >>= fun _ =>
        writeback (a.uint8 .Rn) ((a.uint8 .imm).setWidth 32) (a.bool .U) (a.bool .W) := by
  change _ = ((do read32 (← Emu.indexed (a.uint8 .Rn) ((a.uint8 .imm).setWidth 32) (a.bool .P)
    (a.bool .U))) >>= setReg regPc) >>= fun _ => _
  simp only [hd, i32LdrImmT4, ldr, bind_assoc]

theorem ldrLitT2_eq (hd : a.uint8 .Rt = regPc) :
    i32LdrLitT2 (U := U) (a.uint8 .Rt) (a.uint16 .imm) (a.bool .U) =
      (pcWord a .ldrLitT2 >>= setReg regPc) >>= fun _ => setAdvancePc false := by
  change _ = ((do read32 (← literal (offset (a.bool .U) <| (a.uint16 .imm).setWidth 32))) >>=
    setReg regPc) >>= fun _ => _
  simp only [hd, i32LdrLitT2, ldr, bind_assoc]
  rfl

-- An update of another register leaves PC alone.
theorem writeback_pc {imm : Word} {up W : Bool} (hr : Rn ≠ regPc)
    (h : writeback Rn imm up W s = .ok ((), s')) :
    s'.emuCtx.pc = s.emuCtx.pc ∧ s'.advancePc = s.advancePc := by
  cases W
  case false => cases h; exact ⟨rfl, rfl⟩
  case true =>
    obtain ⟨v, t, hv, hs⟩ := bind_ok_iff.mp h
    obtain ⟨rfl, i, rfl, -⟩ := exists_regNo hv
    rw [setReg_eq] at hs
    cases hs
    have hi : (15 : Fin 16) ≠ i := fun hi => hr <| by rw [← hi]; rfl
    exact ⟨Function.update_of_ne hi .., rfl⟩

-- The step.

theorem finish_pc : (s.finish n).pc = s.nextPc n := by
  simp [InsnEmuCtx.finish, EmuCtx.pc]

-- An instruction that computes or loads a word and leaves the rest to the step does not jump to it.
theorem finish_pc_ne (hp : s.emuCtx.pc = x) (ha : s.advancePc) (hn : n = 2 ∨ n = 4) :
    (s.finish n).pc ≠ x &&& ~~~1 := by
  rw [finish_pc, InsnEmuCtx.nextPc, if_pos ha, hp]
  exact add_length_ne hn

theorem finish_pc_of_not_advance (ha : s.advancePc = false) : (s.finish n).pc = s.emuCtx.pc := by
  rw [finish_pc, InsnEmuCtx.nextPc, ha, if_neg Bool.false_ne_true]

def ldrImmT4Opcode : Opcode where
  variant   := .ldrImmT4
  pattern   := ⟨0xfff00800, 0xf8500800⟩
  length    := 4
  arguments := [
    ⟨.uint8, .Rt, .plain, [⟨0xf000, 12⟩]⟩, ⟨.uint8, .Rn, .plain, [⟨0xf0000, 16⟩]⟩,
    ⟨.uint8, .imm, .plain, [⟨0xff, 0⟩]⟩, ⟨.bool, .P, .plain, [⟨0x400, 10⟩]⟩,
    ⟨.bool, .U, .plain, [⟨0x200, 9⟩]⟩, ⟨.bool, .W, .plain, [⟨0x100, 8⟩]⟩]

theorem base15_of_argument {w : Word}
    (h : (CType.uint8.convert (0#32 ||| (w &&& 0xf0000#32) >>> 16)).setWidth 8 = regPc) :
    (⟨0xf0000, 0xf0000⟩ : Pattern 32).Matches w := by
  have hs : (w &&& 0xf0000#32) >>> 16 = w >>> 16 &&& 15#32 := BitVec.ushiftRight_and_distrib w _ 16
  have hx : w >>> 16 &&& 15#32 = 15#32 := by
    have hle : (w >>> 16 &&& 15#32).toNat ≤ 15 := Nat.and_le_right
    have h : (((w >>> 16 &&& 15#32).setWidth 8).setWidth 32).setWidth 8 = 15#8 := by
      rwa [hs, CType.convert, BitVec.zero_or] at h
    have ht := congrArg BitVec.toNat h
    simp only [BitVec.toNat_setWidth, BitVec.toNat_ofNat] at ht
    apply BitVec.eq_of_toNat_eq
    rw [BitVec.toNat_ofNat]
    omega
  calc w &&& 0xf0000#32 = w &&& 0xf0000#32 &&& BitVec.allOnes 32 <<< 16 := by
        rw [BitVec.and_assoc]
        rfl
    _ = (w &&& 0xf0000#32) >>> 16 <<< 16 := (BitVec.shiftLeft_ushiftRight ..).symm
    _ = 0xf0000#32 := by
        rw [hs, hx]
        rfl

-- With PC as the base, it is `ldr_lit_T2`.
theorem Executes.ldrImmT4_base (hx : Executes ctx .ldrImmT4 a) : a.uint8 .Rn ≠ regPc := by
  obtain ⟨_, w, o, _, ho, hv, ha⟩ := hx
  have h : ∀ o ∈ opcodes, o.variant = .ldrImmT4 → o = ldrImmT4Opcode := by decide +kernel
  have ⟨hm, hp⟩ := Pattern.firstMatch_some ho
  rw [h o hm hv] at ha hp
  intro hr
  cases ha
  have hl : LiteralLoad.ldr.Matches w :=
    (hp.meet <| base15_of_argument hr).of_implies (by decide)
  have hd := LiteralLoad.decode_ldr hl
  rw [ho, Option.map_some, hv] at hd
  cases hd

-- The loads of lists with PC. The advance of PC may be turned off in front of them.
theorem loadRegisters_lastWord {c : Bool} (hp : registers.getLsbD (15 : Fin 16))
    (h : loadRegisters r registers wb { s with advancePc := c } = .ok ((), s')) :
    ∃ x, lastWord r registers s = .ok (x, s) ∧ s'.advancePc = false ∧
      s'.emuCtx.pc = if wb ∧ r = regPc then
        s.emuCtx.pc + 4 * BitVec.ofNat 32 (regsOf registers).length else x &&& ~~~1 := by
  obtain ⟨v, t, hg, -⟩ := bind_ok_iff.mp h
  obtain ⟨-, b, rfl, -⟩ := exists_regNo hg
  obtain ⟨x, hw, ha, hv⟩ := loadRegisters_pc hp h
  have hb : ∀ b : Fin 16, regNo b = regPc ↔ b = 15 := by decide
  refine ⟨x, ?_, ha, ?_⟩
  · rw [lastWord, bind_of_ok getReg_eq]
    exact read32_ok hw
  · simp only [hv, hb]

theorem lastWord_pc : lastWord (U := U) r 0x8000 = (do read32 (← getReg r)) := by
  have hr : regsOf 0x8000 = [15] := by decide
  simp only [lastWord, hr]
  simp

theorem withPc_eq {l : BitVec 16} {P : Bool} (hP : P) :
    withPc l P s = .ok (PopInsn.orPc l P, { s with advancePc := false }) := by
  subst hP
  rfl

theorem getLsbD_orPc {l : BitVec 16} {P : Bool} (hP : P) :
    (PopInsn.orPc l P).getLsbD (15 : Fin 16) := by
  subst hP
  simp [PopInsn.orPc, regPc]

theorem getLsbD_withLr {l : BitVec 16} {M : Bool} (hl : l.getLsbD (15 : Fin 16)) :
    (withLr l M).getLsbD (15 : Fin 16) := by
  cases M
  case false => exact hl
  case true  => rw [withLr, if_pos rfl, BitVec.getLsbD_or, hl, Bool.true_or]

theorem Executes.step_pc_ne {handler : Args → Emu U Unit} (hx : Executes ctx v a)
    (hh : emulationCallbacks host v = some handler)
    (he : handler a = pcWord a v >>= setReg regPc) (h : cpuSingleStep host ctx = .ok ctx') :
    ∃ x, pcWord a v ctx.insnCtx = .ok (x, ctx.insnCtx) ∧ ctx'.pc ≠ x &&& ~~~1 := by
  obtain ⟨s, n, hs, rfl, hn⟩ := hx.step_ok hh h
  rw [he] at hs
  obtain ⟨x, hw, rfl⟩ := (reads_pcWord _).setReg_pc hs
  exact ⟨x, hw, finish_pc_ne rfl rfl hn⟩

theorem Executes.step_pc_iff_of_eq {handler : Args → Emu U Unit} (hx : Executes ctx v a)
    (hh : emulationCallbacks host v = some handler)
    (he : handler a = pcWord a v >>= setReg regPc) (hj : ∀ x, ¬JumpsTo ctx a x v)
    (h : cpuSingleStep host ctx = .ok ctx') :
    ∃ x, pcWord a v ctx.insnCtx = .ok (x, ctx.insnCtx) ∧
      (ctx'.pc = x &&& ~~~1 ↔ JumpsTo ctx a x v) := by
  have ⟨x, hw, hn⟩ := hx.step_pc_ne hh he h
  exact ⟨x, hw, iff_of_false hn <| hj x⟩

theorem Executes.step_pc_ldrImmT4 (hx : Executes ctx .ldrImmT4 a) (hd : a.uint8 .Rt = regPc)
    (h : cpuSingleStep host ctx = .ok ctx') :
    ∃ x, pcWord a .ldrImmT4 ctx.insnCtx = .ok (x, ctx.insnCtx) ∧ ctx'.pc ≠ x &&& ~~~1 := by
  obtain ⟨s, n, hs, rfl, hn⟩ := hx.step_ok rfl h
  change i32LdrImmT4 .. = _ at hs
  rw [ldrImmT4_eq hd] at hs
  obtain ⟨_, t, ht, hb⟩ := bind_ok_iff.mp hs
  obtain ⟨x, hw, rfl⟩ := (reads_pcWord _).setReg_pc ht
  have ⟨hp, ha⟩ := writeback_pc hx.ldrImmT4_base hb
  exact ⟨x, hw, finish_pc_ne hp ha hn⟩

-- The step adds no length behind `ldr_lit_T2`.
theorem Executes.step_pc_ldrLitT2 (hx : Executes ctx .ldrLitT2 a) (hd : a.uint8 .Rt = regPc)
    (h : cpuSingleStep host ctx = .ok ctx') :
    ∃ x, pcWord a .ldrLitT2 ctx.insnCtx = .ok (x, ctx.insnCtx) ∧ ctx'.pc = x := by
  obtain ⟨s, n, hs, rfl, hn⟩ := hx.step_ok rfl h
  change i32LdrLitT2 .. = _ at hs
  rw [ldrLitT2_eq hd] at hs
  obtain ⟨_, t, ht, hb⟩ := bind_ok_iff.mp hs
  obtain ⟨x, hw, rfl⟩ := (reads_pcWord _).setReg_pc ht
  cases hb
  exact ⟨x, hw, finish_pc_of_not_advance rfl⟩

-- The loads of lists turn off the advance of PC first.
theorem Executes.step_pc_list {handler : Args → Emu U Unit} (hx : Executes ctx v a)
    (hh : emulationCallbacks host v = some handler) (hp : registers.getLsbD (15 : Fin 16))
    (he : ∀ s, handler a s = loadRegisters r registers wb { s with advancePc := false })
    (h : cpuSingleStep host ctx = .ok ctx') :
    ∃ x, lastWord r registers ctx.insnCtx = .ok (x, ctx.insnCtx) ∧
      ctx'.pc = if wb ∧ r = regPc then
        ctx.pc + 4 * BitVec.ofNat 32 (regsOf registers).length else x &&& ~~~1 := by
  obtain ⟨s, n, hs, rfl, -⟩ := hx.step_ok hh h
  rw [he] at hs
  obtain ⟨x, hw, ha, hp⟩ := loadRegisters_lastWord hp hs
  exact ⟨x, hw, (finish_pc_of_not_advance ha).trans hp⟩

theorem Executes.step_pc_popT3 (hx : Executes ctx .popT3 a) (hd : a.uint8 .Rt = regPc)
    (h : cpuSingleStep host ctx = .ok ctx') :
    ∃ x, pcWord a .popT3 ctx.insnCtx = .ok (x, ctx.insnCtx) ∧ ctx'.pc = x &&& ~~~1 := by
  obtain ⟨s, n, hs, rfl, hn⟩ := hx.step_ok rfl h
  change i32PopT3 .. = _ at hs
  rw [hd] at hs
  obtain ⟨_, t, ht, hs⟩ := bind_ok_iff.mp hs
  cases ht
  obtain ⟨_, t, ht, hs⟩ := bind_ok_iff.mp hs
  change loadRegisters regSp 0x8000 true { ctx.insnCtx with advancePc := true } = _ at ht
  obtain ⟨x, hw, -, hp⟩ := loadRegisters_lastWord (by decide) ht
  rw [lastWord_pc] at hw
  cases hs
  refine ⟨x, hw, ?_⟩
  rw [finish_pc_of_not_advance (by simp)]
  exact hp.trans <| if_neg (by decide)

theorem step_pc_iff (hx : Executes ctx v a) (hw : WritesPc a v)
    (h : cpuSingleStep host ctx = .ok ctx') :
    ∃ x, pcWord a v ctx.insnCtx = .ok (x, ctx.insnCtx) ∧
      (ctx'.pc = x &&& ~~~1 ↔ JumpsTo ctx a x v) := by
  cases hw
  case movRegT1 hd => exact hx.step_pc_iff_of_eq rfl (movRegT1_eq hd) (fun _ => id) h
  case addRegT2 hd => exact hx.step_pc_iff_of_eq rfl (addRegT2_eq hd) (fun _ => id) h
  case ldrImmT3 hd => exact hx.step_pc_iff_of_eq rfl (ldrImmT3_eq hd) (fun _ => id) h
  case ldrRegT2 hd => exact hx.step_pc_iff_of_eq rfl (ldrRegT2_eq hd) (fun _ => id) h
  case ldrImmT4 hd =>
    have ⟨x, hw, hp⟩ := hx.step_pc_ldrImmT4 hd h
    exact ⟨x, hw, iff_of_false hp id⟩
  case ldrLitT2 hd =>
    have ⟨x, hw, hp⟩ := hx.step_pc_ldrLitT2 hd h
    exact ⟨x, hw, hp ▸ eq_and_not_one_iff⟩
  case ldmT2 hP =>
    have ⟨x, hw, hp⟩ := hx.step_pc_list rfl (getLsbD_withLr <| getLsbD_orPc hP)
      (fun _ => bind_of_ok <| withPc_eq hP) h
    exact ⟨x, hw, hp ▸ ite_eq_right_iff.trans and_imp⟩
  case popT1 hP =>
    have ⟨x, hw, hp⟩ := hx.step_pc_list rfl (getLsbD_orPc hP)
      (fun _ => bind_of_ok <| withPc_eq hP) h
    exact ⟨x, hw, iff_of_true (hp.trans <| if_neg (by decide)) trivial⟩
  case popT2 hP =>
    have ⟨x, hw, hp⟩ := hx.step_pc_list rfl (getLsbD_withLr <| getLsbD_orPc hP)
      (fun _ => bind_of_ok <| withPc_eq hP) h
    exact ⟨x, hw, iff_of_true (hp.trans <| if_neg (by decide)) trivial⟩
  case popT3 hd =>
    have ⟨x, hw, hp⟩ := hx.step_pc_popT3 hd h
    exact ⟨x, hw, iff_of_true hp trivial⟩

end

-- The program `pop {r0, pc}` with the address 9 behind it.
theorem step_pc_iff_popT1 :
    let ctx := smallMachine [0x01, 0xbd, 0, 0, 0x09]
    ∃ a ctx' x, cpuSingleStep noHost ctx = .ok ctx' ∧
      pcWord a .popT1 ctx.insnCtx = .ok (x, ctx.insnCtx) ∧ ctx'.pc = x &&& ~~~1 := by
  intro ctx
  obtain ⟨a, hx⟩ : ∃ a, Executes ctx .popT1 a :=
    exists_executes (by decide +kernel) (by decide +kernel)
  have hP : ctx.nextInsn.all fun p => p.2.bool .P := by decide +kernel
  have hs : (cpuSingleStep noHost ctx).isOk := by decide +kernel
  have ⟨x, hw, hp⟩ := step_pc_iff hx (.popT1 <| hx.of_nextInsn hP) (eq_resultOr (s := ctx) hs)
  exact ⟨a, _, x, eq_resultOr hs, hw, hp.mpr trivial⟩

-- With `mov pc, r0`, the step adds the length of the instruction to the value of the register.
theorem not_forall_step_pc :
    ¬∀ (host : Callbacks Unit) (ctx ctx' : EmuCtx Unit) (v : Variant) (a : Args) (x : Word),
      ctx.cpu.itState = 0 → Executes ctx v a → WritesPc a v → cpuSingleStep host ctx = .ok ctx' →
      pcWord a v ctx.insnCtx = .ok (x, ctx.insnCtx) → ctx'.pc = x &&& ~~~1 := by
  intro h
  let ctx := smallMachine [0x87, 0x46]
  obtain ⟨a, hx⟩ : ∃ a, Executes ctx .movRegT1 a :=
    exists_executes (by decide +kernel) (by decide +kernel)
  have hd : ctx.nextInsn.all fun p => p.2.uint8 .Rd = regPc := by decide +kernel
  replace hd : a.uint8 .Rd = regPc := of_decide_eq_true <| hx.of_nextInsn hd
  have hs : (cpuSingleStep noHost ctx).isOk := by decide +kernel
  have ⟨x, hw, hn⟩ := hx.step_pc_ne rfl (movRegT1_eq hd) (eq_resultOr (s := ctx) hs)
  exact hn <| h noHost ctx _ _ a x rfl hx (.movRegT1 hd) (eq_resultOr hs) hw
