import Thumb2Sim.Execution.Guest
import Thumb2Sim.Execution.Theorems.Step
import Thumb2Sim.Lib.Leads

open Program Emu Emulation

-- The emulator is in a state with these registers and bytes, outside of IT blocks.
structure Guest.Describes {U : Type} (rs : List Region) (g : Guest) (ctx : EmuCtx U) : Prop where
  addrSpace : Addrspace.ofRegions rs = some ctx.addrSpace
  layout    : Layout rs ctx.memory
  bytes     : contents rs ctx.memory = g.bytes
  reg       : ctx.cpu.reg = g.reg
  itState   : ctx.cpu.itState = 0

namespace GuestInsn

variable {U : Type} {host : Callbacks U} {i : GuestInsn} {next : BitVec 16}

-- The branch of `decode_insn` for the instruction.
def opcode : GuestInsn → Opcode
  | ldrLit ..     => ⟨.ldrLitT1, ⟨0xf8000000, 0x48000000⟩, 2, [
      ⟨.uint8, .Rt, .plain, [⟨0x7000000, 24⟩]⟩, ⟨.uint8, .imm, .plain, [⟨0xff0000, 16⟩]⟩]⟩
  | movImm ..     => ⟨.movImmT1, ⟨0xf8000000, 0x20000000⟩, 2, [
      ⟨.uint8, .Rd, .plain, [⟨0x7000000, 24⟩]⟩, ⟨.uint8, .imm, .plain, [⟨0xff0000, 16⟩]⟩]⟩
  | subReg ..     => ⟨.subRegT1, ⟨0xfe000000, 0x1a000000⟩, 2, [
      ⟨.uint8, .Rd, .plain, [⟨0x70000, 16⟩]⟩, ⟨.uint8, .Rn, .plain, [⟨0x380000, 19⟩]⟩,
      ⟨.uint8, .Rm, .plain, [⟨0x1c00000, 22⟩]⟩]⟩
  | subImm ..     => ⟨.subImmT2, ⟨0xf8000000, 0x38000000⟩, 2, [
      ⟨.uint8, .Rdn, .plain, [⟨0x7000000, 24⟩]⟩, ⟨.uint8, .imm, .plain, [⟨0xff0000, 16⟩]⟩]⟩
  | bicsImm ..    => ⟨.bicImmT1, ⟨0xfbe08000, 0xf0200000⟩, 4, [
      ⟨.uint8, .Rd, .plain, [⟨0xf00, 8⟩]⟩, ⟨.uint8, .Rn, .plain, [⟨0xf0000, 16⟩]⟩,
      ⟨.int32, .imm, .thumbExpandImm, [⟨0x4000000, 15⟩, ⟨0x7000, 4⟩, ⟨0xff, 0⟩]⟩,
      ⟨.bool, .S, .plain, [⟨0x100000, 20⟩]⟩]⟩
  | ldrReg ..     => ⟨.ldrRegT1, ⟨0xfe000000, 0x58000000⟩, 2, [
      ⟨.uint8, .Rt, .plain, [⟨0x70000, 16⟩]⟩, ⟨.uint8, .Rn, .plain, [⟨0x380000, 19⟩]⟩,
      ⟨.uint8, .Rm, .plain, [⟨0x1c00000, 22⟩]⟩]⟩
  | strReg ..     => ⟨.strRegT1, ⟨0xfe000000, 0x50000000⟩, 2, [
      ⟨.uint8, .Rt, .plain, [⟨0x70000, 16⟩]⟩, ⟨.uint8, .Rn, .plain, [⟨0x380000, 19⟩]⟩,
      ⟨.uint8, .Rm, .plain, [⟨0x1c00000, 22⟩]⟩]⟩
  | cbz ..        => (BranchInsn.cbnzT1 false 0 0).opcode
  | b ..          => (BranchInsn.bT2 0).opcode

-- No branch of `decode_insn` in front of these takes some of their words.
theorem firstMatchOf_opcode : Pattern.firstMatchOf Opcode.pattern i.opcode.pattern [] opcodes =
    some i.opcode := by
  have h : ∀ o ∈ [opcode (ldrLit 0 0), opcode (movImm 0 0), opcode (subReg 0 0 0),
      opcode (subImm 0 0), opcode (bicsImm 0 0 0), opcode (ldrReg 0 0 0), opcode (strReg 0 0 0),
      opcode (cbz 0 0), opcode (b 0)],
      Pattern.firstMatchOf Opcode.pattern o.pattern [] opcodes = some o := by
    decide +kernel
  cases i <;> exact h _ (by simp [opcode, BranchInsn.opcode])

theorem opcode_length : i.opcode.length = i.size := by
  cases i <;> rfl

-- The call of the handler.
def handler (overflow : SignedOverflow) : GuestInsn → Emu U Unit
  | ldrLit Rt imm     => i16LdrLitT1 (lowRegNo Rt) imm
  | movImm Rd imm     => i16MovImmT1 (lowRegNo Rd) imm
  | subReg Rd Rn Rm   => i16SubRegT1 overflow (lowRegNo Rd) (lowRegNo Rn) (lowRegNo Rm)
  | subImm Rdn imm    => i16SubImmT2 overflow (lowRegNo Rdn) imm
  | bicsImm Rd Rn imm => i32BicImmT1 (lowRegNo Rd) (lowRegNo Rn) (imm.setWidth 32) true
  | ldrReg Rt Rn Rm   => i16LdrRegT1 (lowRegNo Rt) (lowRegNo Rn) (lowRegNo Rm)
  | strReg Rt Rn Rm   => i16StrRegT1 (lowRegNo Rt) (lowRegNo Rn) (lowRegNo Rm)
  | cbz Rn offset     => i16CbnzT1 (lowRegNo Rn) ((BitVec.ofInt 6 (offset / 2)).setWidth 8) false
  | b offset          => i16BT2 ((BitVec.ofInt 11 (offset / 2)).setWidth 16)

-- What the decoder takes out of the fields.

section Fields

variable (next) (op : BitVec 5) (op' : BitVec 7) (r r' r'' : BitVec 3) (imm : Byte)

theorem immForm_fields :
    let w : Word := op ++ r ++ imm ++ next
    (w &&& 0x7000000) >>> 24 = r.setWidth 32 ∧ (w &&& 0xff0000) >>> 16 = imm.setWidth 32 ∧
      w &&& 0xf8000000 = op ++ 0#27 := by
  refine ⟨?_, ?_, ?_⟩
  all_goals
    apply BitVec.eq_of_getLsbD_eq
    intro i hi
    simp only [BitVec.getLsbD_ushiftRight, BitVec.getLsbD_and, BitVec.getLsbD_append,
      BitVec.getLsbD_setWidth]
    interval_cases i <;> simp only [BitVec.reduceGetLsb, Nat.reduceLT, Nat.reduceSub, Nat.reduceAdd,
      Nat.reduceLeDiff, decide_true, Bool.and_true, Bool.and_false, Bool.true_and, ↓reduceIte,
      BitVec.getLsbD_of_ge]

theorem regForm_fields :
    let w : Word := op' ++ r'' ++ r' ++ r ++ next
    (w &&& 0x70000) >>> 16 = r.setWidth 32 ∧ (w &&& 0x380000) >>> 19 = r'.setWidth 32 ∧
      (w &&& 0x1c00000) >>> 22 = r''.setWidth 32 ∧ w &&& 0xfe000000 = op' ++ 0#25 := by
  refine ⟨?_, ?_, ?_, ?_⟩
  all_goals
    apply BitVec.eq_of_getLsbD_eq
    intro i hi
    simp only [BitVec.getLsbD_ushiftRight, BitVec.getLsbD_and, BitVec.getLsbD_append,
      BitVec.getLsbD_setWidth]
    interval_cases i <;> simp only [BitVec.reduceGetLsb, Nat.reduceLT, Nat.reduceSub, Nat.reduceAdd,
      Nat.reduceLeDiff, decide_true, Bool.and_true, Bool.and_false, Bool.true_and, ↓reduceIte,
      BitVec.getLsbD_of_ge]

theorem bicsForm_fields (s s' : BitVec 4) :
    let w : Word := 0b111100000011#12 ++ s' ++ (0#4 ++ s ++ imm)
    (w &&& 0xf00) >>> 8 = s.setWidth 32 ∧ (w &&& 0xf0000) >>> 16 = s'.setWidth 32 ∧
      0 ||| (w &&& 0x4000000) >>> 15 ||| (w &&& 0x7000) >>> 4 ||| (w &&& 0xff) >>> 0 =
        imm.setWidth 32 ∧
      (w &&& 0x100000) >>> 20 = 1 ∧ w &&& 0xfbe08000 = 0xf0200000 := by
  refine ⟨?_, ?_, ?_, ?_, ?_⟩
  all_goals
    apply BitVec.eq_of_getLsbD_eq
    intro i hi
    simp only [BitVec.getLsbD_or, BitVec.getLsbD_ushiftRight, BitVec.getLsbD_and,
      BitVec.getLsbD_append, BitVec.getLsbD_setWidth]
    interval_cases i <;> simp only [BitVec.reduceGetLsb, Nat.reduceLT, Nat.reduceSub, Nat.reduceAdd,
      Nat.reduceLeDiff, decide_true, Bool.and_true, Bool.and_false, Bool.true_and, Bool.or_false,
      Bool.false_or, ↓reduceIte, BitVec.natCast_eq_ofNat, BitVec.getLsbD_of_ge]

end Fields

-- The register and the immediate, and the three registers of the narrow forms.

theorem args_immForm {o : Opcode} {v : Var} {op : BitVec 5} {r : Fin 8} {imm : Byte} {w : Word}
    (ho : o.arguments = [⟨.uint8, v, .plain, [⟨0x7000000, 24⟩]⟩,
      ⟨.uint8, .imm, .plain, [⟨0xff0000, 16⟩]⟩])
    (hv : v ≠ .imm) (hw : w = op ++ BitVec.ofNat 3 r ++ imm ++ next) :
    ∃ a, o.args w = .ok a ∧ a.uint8 v = lowRegNo r ∧ a.uint8 .imm = imm := by
  have ⟨h, hi, _⟩ := immForm_fields next op (BitVec.ofNat 3 r) imm
  have hr : ∀ r : Fin 8, BitVec.setWidth 8 (CType.uint8.convert
      (0 ||| (BitVec.ofNat 3 r).setWidth 32)) = lowRegNo r := by
    decide
  refine ⟨Function.update (Function.update (fun _ => 0) v <| CType.uint8.convert <|
    0 ||| (BitVec.ofNat 3 r).setWidth 32) .imm <| CType.uint8.convert <| 0 ||| imm.setWidth 32,
    ?_, ?_, ?_⟩
  case refine_1 =>
    rw [Opcode.args, ho, ← h, ← hi, ← hw]
    rfl
  case refine_2 => rw [Args.uint8, Function.update_of_ne hv, Function.update_self, hr]
  case refine_3 => simp [Args.uint8, CType.convert]

theorem args_regForm {o : Opcode} {v : Var} {op : BitVec 7} {r r' r'' : Fin 8} {w : Word}
    (ho : o.arguments = [⟨.uint8, v, .plain, [⟨0x70000, 16⟩]⟩,
      ⟨.uint8, .Rn, .plain, [⟨0x380000, 19⟩]⟩, ⟨.uint8, .Rm, .plain, [⟨0x1c00000, 22⟩]⟩])
    (hn : v ≠ .Rn) (hm : v ≠ .Rm)
    (hw : w = op ++ BitVec.ofNat 3 r'' ++ BitVec.ofNat 3 r' ++ BitVec.ofNat 3 r ++ next) :
    ∃ a, o.args w = .ok a ∧ a.uint8 v = lowRegNo r ∧ a.uint8 .Rn = lowRegNo r' ∧
      a.uint8 .Rm = lowRegNo r'' := by
  have ⟨h, h', h'', _⟩ := regForm_fields next op (BitVec.ofNat 3 r) (BitVec.ofNat 3 r')
    (BitVec.ofNat 3 r'')
  have hr : ∀ r : Fin 8, BitVec.setWidth 8 (CType.uint8.convert
      (0 ||| (BitVec.ofNat 3 r).setWidth 32)) = lowRegNo r := by
    decide
  refine ⟨Function.update (Function.update (Function.update (fun _ => 0)
    v <| CType.uint8.convert <| 0 ||| (BitVec.ofNat 3 r).setWidth 32)
    .Rn <| CType.uint8.convert <| 0 ||| (BitVec.ofNat 3 r').setWidth 32)
    .Rm <| CType.uint8.convert <| 0 ||| (BitVec.ofNat 3 r'').setWidth 32, ?_, ?_, ?_, ?_⟩
  case refine_1 =>
    rw [Opcode.args, ho, ← h, ← h', ← h'', ← hw]
    rfl
  case refine_2 =>
    rw [Args.uint8, Function.update_of_ne hm, Function.update_of_ne hn, Function.update_self, hr]
  case refine_3 => rw [Args.uint8, Function.update_of_ne (by decide), Function.update_self, hr]
  case refine_4 => rw [Args.uint8, Function.update_self, hr]

theorem thumbExpandImm_byte : ∀ imm : Byte,
    thumbExpandImm ((imm.setWidth 32).setWidth 16) = .ok (imm.setWidth 32) := by
  decide +kernel

theorem args_bicsImm (Rd Rn : Fin 8) (imm : Byte) (next : BitVec 16) :
    ∃ a, (bicsImm Rd Rn imm).opcode.args ((bicsImm Rd Rn imm).word next) = .ok a ∧
      a.uint8 .Rd = lowRegNo Rd ∧ a.uint8 .Rn = lowRegNo Rn ∧ a.int32 .imm = imm.setWidth 32 ∧
      a.bool .S = true := by
  have ⟨hd, hn, hi, hs, _⟩ := bicsForm_fields imm (BitVec.ofNat 4 Rd) (BitVec.ofNat 4 Rn)
  have hr : ∀ r : Fin 8, BitVec.setWidth 8 (CType.uint8.convert
      (0 ||| (BitVec.ofNat 4 r).setWidth 32)) = lowRegNo r := by
    decide
  have value_eq {v : Var} {t : CType} (p : Piece) {x : Word}
      (hx : p.extract ((bicsImm Rd Rn imm).word next) = x) :
      Argument.value ⟨t, v, .plain, [p]⟩ ((bicsImm Rd Rn imm).word next) =
        .ok (t.convert (0 ||| x)) :=
    BranchInsn.value_of_extract (congrArg (0 ||| ·) hx) rfl
  have hv : Argument.value ⟨.int32, .imm, .thumbExpandImm,
      [⟨0x4000000, 15⟩, ⟨0x7000, 4⟩, ⟨0xff, 0⟩]⟩ ((bicsImm Rd Rn imm).word next) =
        .ok (imm.setWidth 32) :=
    BranchInsn.value_of_extract hi <| thumbExpandImm_byte imm
  refine ⟨Function.update (Function.update (Function.update (Function.update (fun _ => 0)
    .Rd <| CType.uint8.convert <| 0 ||| (BitVec.ofNat 4 Rd).setWidth 32)
    .Rn <| CType.uint8.convert <| 0 ||| (BitVec.ofNat 4 Rn).setWidth 32)
    .imm <| imm.setWidth 32) .S <| CType.bool.convert <| 0 ||| 1, ?_, hr Rd, hr Rn, rfl, rfl⟩
  simp only [Opcode.args, opcode, List.foldlM_cons, value_eq ⟨0xf00, 8⟩ hd,
    value_eq ⟨0xf0000, 16⟩ hn, hv, value_eq ⟨0x100000, 20⟩ hs]
  rfl

theorem word_matches : i.opcode.pattern.Matches (i.word next) := by
  cases i
  case ldrLit  => exact immForm_fields _ _ _ _ |>.right.right
  case movImm  => exact immForm_fields _ _ _ _ |>.right.right
  case subReg  => exact regForm_fields _ _ _ _ _ |>.right.right.right
  case subImm  => exact immForm_fields _ _ _ _ |>.right.right
  case bicsImm => exact bicsForm_fields _ _ _ |>.right.right.right.right
  case ldrReg  => exact regForm_fields _ _ _ _ _ |>.right.right.right
  case strReg  => exact regForm_fields _ _ _ _ _ |>.right.right.right
  case cbz     => exact cbnzT1Word_fields _ _ _ _ |>.right.right.right
  case b       => exact bT2Word_fields _ _ |>.right

theorem callHandler_eq :
    i.opcode.callHandler (i.word next) (some (emulationCallbacks host)) =
      i.handler host.signedOverflow := by
  cases i
  case ldrLit Rt imm =>
    have ⟨a, ha, hr, hi⟩ : ∃ a, (ldrLit Rt imm).opcode.args ((ldrLit Rt imm).word next) = .ok a ∧
        a.uint8 .Rt = lowRegNo Rt ∧ a.uint8 .imm = imm :=
      args_immForm rfl (by decide) rfl
    rw [Opcode.callHandler_of_args rfl ha, hr, hi]
    rfl
  case movImm Rd imm =>
    have ⟨a, ha, hr, hi⟩ : ∃ a, (movImm Rd imm).opcode.args ((movImm Rd imm).word next) = .ok a ∧
        a.uint8 .Rd = lowRegNo Rd ∧ a.uint8 .imm = imm :=
      args_immForm rfl (by decide) rfl
    rw [Opcode.callHandler_of_args rfl ha, hr, hi]
    rfl
  case subReg Rd Rn Rm =>
    have ⟨a, ha, hd, hn, hm⟩ : ∃ a, (subReg Rd Rn Rm).opcode.args ((subReg Rd Rn Rm).word next) =
        .ok a ∧ a.uint8 .Rd = lowRegNo Rd ∧ a.uint8 .Rn = lowRegNo Rn ∧
          a.uint8 .Rm = lowRegNo Rm :=
      args_regForm rfl (by decide) (by decide) rfl
    rw [Opcode.callHandler_of_args rfl ha, hd, hn, hm]
    rfl
  case subImm Rdn imm =>
    have ⟨a, ha, hr, hi⟩ : ∃ a, (subImm Rdn imm).opcode.args ((subImm Rdn imm).word next) = .ok a ∧
        a.uint8 .Rdn = lowRegNo Rdn ∧ a.uint8 .imm = imm :=
      args_immForm rfl (by decide) rfl
    rw [Opcode.callHandler_of_args rfl ha, hr, hi]
    rfl
  case bicsImm Rd Rn imm =>
    have ⟨a, ha, hd, hn, hi, hs⟩ := args_bicsImm Rd Rn imm next
    rw [Opcode.callHandler_of_args rfl ha, hd, hn, hi, hs]
    rfl
  case ldrReg Rt Rn Rm =>
    have ⟨a, ha, ht, hn, hm⟩ : ∃ a, (ldrReg Rt Rn Rm).opcode.args ((ldrReg Rt Rn Rm).word next) =
        .ok a ∧ a.uint8 .Rt = lowRegNo Rt ∧ a.uint8 .Rn = lowRegNo Rn ∧
          a.uint8 .Rm = lowRegNo Rm :=
      args_regForm rfl (by decide) (by decide) rfl
    rw [Opcode.callHandler_of_args rfl ha, ht, hn, hm]
    rfl
  case strReg Rt Rn Rm =>
    have ⟨a, ha, ht, hn, hm⟩ : ∃ a, (strReg Rt Rn Rm).opcode.args ((strReg Rt Rn Rm).word next) =
        .ok a ∧ a.uint8 .Rt = lowRegNo Rt ∧ a.uint8 .Rn = lowRegNo Rn ∧
          a.uint8 .Rm = lowRegNo Rm :=
      args_regForm rfl (by decide) (by decide) rfl
    rw [Opcode.callHandler_of_args rfl ha, ht, hn, hm]
    rfl
  case cbz => exact BranchInsn.callHandler_cbnzT1
  case b   => exact BranchInsn.callHandler_bT2

end GuestInsn

namespace Guest.Describes

variable {U : Type} {host : Callbacks U} {rs : List Region} {g : Guest} {ctx : EmuCtx U}
  {s : InsnEmuCtx U} {a v : Word} {n : Nat}

theorem pc (h : g.Describes rs ctx) : ctx.pc = g.pc :=
  congrFun h.reg 15

theorem setsFlags (h : g.Describes rs ctx) (b : Bool) : SetsFlags b ctx.insnCtx :=
  setsFlags_of_itState h.itState b

theorem read32 (h : g.Describes rs ctx) (ha : a.toNat + 4 ≤ 2 ^ 32) :
    ctx.addrSpace.read32 ctx.memory a = .ok (g.load (rs.map Region.area) a) := by
  have hr : ctx.addrSpace.readN ctx.memory a 4 = .ok _ :=
    h.layout.readN_reference h.addrSpace (.inr <| .inr rfl) ha
  rw [Addrspace.read32, hr, h.bytes]
  rfl

theorem read16 (h : g.Describes rs ctx) (ha : a.toNat + 2 ≤ 2 ^ 32) :
    ctx.addrSpace.read16 ctx.memory a = .ok (g.halfword (rs.map Region.area) a) := by
  have hr : ctx.addrSpace.readN ctx.memory a 2 = .ok _ :=
    h.layout.readN_reference h.addrSpace (.inr <| .inl rfl) ha
  have hm : ((BitVec.ofNat 32 <| g.bytes.read (rs.map Region.area) a.toNat 2)).setWidth 16 =
      g.halfword (rs.map Region.area) a := by
    simp [halfword, BitVec.setWidth_ofNat_of_le]
  rw [Addrspace.read16, hr, h.bytes, ← hm]
  rfl

theorem write32 (h : g.Describes rs ctx) (ha : a.toNat + 4 ≤ 2 ^ 32) :
    ∃ memory, ctx.addrSpace.write32 ctx.memory a v = .ok memory ∧ Layout rs memory ∧
      contents rs memory = (g.store (rs.map Region.area) a v).bytes := by
  have ⟨memory, hw, hl, hc⟩ : ∃ memory, ctx.addrSpace.writeN ctx.memory a 4 v = .ok memory ∧ _ :=
    h.layout.writeN_reference h.addrSpace (.inr <| .inr rfl) ha
  rw [h.bytes] at hc
  exact ⟨memory, hw, hl, hc⟩

-- The end of a step.

theorem finish (h : g.Describes rs s.emuCtx) (n : Nat) :
    Describes rs { g with reg := Function.update g.reg 15 (s.nextPc n) } (s.finish n) where
  addrSpace := h.addrSpace
  layout    := h.layout
  bytes     := h.bytes
  reg       := congrArg (Function.update · _ _) h.reg
  itState   := by
    change s.nextItState = 0
    rw [InsnEmuCtx.nextItState, h.itState]
    split <;> rfl

theorem setReg (h : g.Describes rs s.emuCtx) (r : Fin 16) (v : Word) :
    Describes rs (g.setReg r v) (s.setReg r v).emuCtx where
  addrSpace := h.addrSpace
  layout    := h.layout
  bytes     := h.bytes
  reg       := congrArg (Function.update · _ _) h.reg
  itState   := h.itState

theorem setPsr (h : g.Describes rs s.emuCtx) (psr : Word) :
    Describes rs g (s.setPsr psr).emuCtx where
  addrSpace := h.addrSpace
  layout    := h.layout
  bytes     := h.bytes
  reg       := h.reg
  itState   := h.itState

theorem finish_next (h : g.Describes rs s.emuCtx) (ha : s.advancePc) (n : Nat) :
    Describes rs (g.next n) (s.finish n) := by
  have hf := h.finish n
  rwa [InsnEmuCtx.nextPc, if_pos ha, h.pc] at hf

end Guest.Describes

namespace GuestInsn

variable {U : Type} {host : Callbacks U} {rs : List Region} {g : Guest} {ctx : EmuCtx U}
  {s : InsnEmuCtx U} {a : Word} {i : GuestInsn}

theorem ldr_ok {r : Fin 16} {v : Word} (h : s.emuCtx.addrSpace.read32 s.emuCtx.memory a = .ok v) :
    ldr (regNo r) a s = .ok ((), s.setReg r v) := by
  rw [ldr, bind_of_ok (read32_ok h), setReg_eq]

theorem str_ok {r : Fin 16} {memory : HostMemory}
    (h : s.emuCtx.addrSpace.write32 s.emuCtx.memory a (s.emuCtx.cpu.reg r) = .ok memory) :
    str (regNo r) a s = .ok ((), s.setMemory memory) := by
  rw [str, bind_of_ok getReg_eq, write32_ok h]

theorem describes_branch (h : g.Describes rs ctx) (offset : Int) (n : Nat) :
    (g.branch offset).Describes rs (InsnEmuCtx.finish
      { ctx.insnCtx.setReg 15 (ctx.pc + 4 + BitVec.ofInt 32 offset) with advancePc := false } n) := by
  have hd : g.Describes rs ctx.insnCtx.emuCtx := h
  have hs := hd.setReg 15 (g.pc + 4 + BitVec.ofInt 32 offset)
  rw [h.pc]
  have hf := Guest.Describes.finish (g := g.branch offset)
    (s := { ctx.insnCtx.setReg 15 (g.pc + 4 + BitVec.ofInt 32 offset) with advancePc := false }) hs n
  have hn : InsnEmuCtx.nextPc { ctx.insnCtx.setReg 15 (g.pc + 4 + BitVec.ofInt 32 offset) with
      advancePc := false } n = (g.branch offset).reg 15 :=
    congrFun hs.reg 15
  rwa [hn, Function.update_eq_self] at hf

-- The handlers do what the instructions are meant to do.
theorem handler_effect (overflow : SignedOverflow) (h : g.Describes rs ctx) (he : i.Encodable)
    (hn : i.NoOverflow g) :
    ∃ s, i.handler overflow ctx.insnCtx = .ok ((), s) ∧
      (i.effect (rs.map Region.area) g).Describes rs (s.finish i.size) := by
  have hd : g.Describes rs ctx.insnCtx.emuCtx := h
  have reg_eq (r : Fin 16) : ctx.insnCtx.emuCtx.cpu.reg r = g.reg r := congrFun h.reg r
  cases i
  case ldrLit Rt imm =>
    have hl : literal (imm.setWidth 32 * 4) ctx.insnCtx =
        .ok ((ctx.pc &&& ~~~3) + imm.setWidth 32 * 4 + 4, ctx.insnCtx) := rfl
    have ha : (ctx.pc &&& ~~~3) + imm.setWidth 32 * 4 + 4 =
        (g.pc &&& ~~~3) + 4 + 4 * imm.setWidth 32 := by
      rw [h.pc, BitVec.mul_comm, BitVec.add_assoc, BitVec.add_comm (4 * _), BitVec.add_assoc]
    rw [ha] at hl
    have hr : ldr (lowRegNo Rt) ((g.pc &&& ~~~3) + 4 + 4 * imm.setWidth 32) ctx.insnCtx = .ok _ :=
      ldr_ok <| h.read32 <| hn _ rfl
    have hp : decide (lowRegNo Rt ≠ regPc) = true := decide_eq_true lowRegNo_ne_pc
    refine ⟨_, ?_, (hd.setReg (lowReg Rt) _).finish_next rfl 2⟩
    rw [handler, i16LdrLitT1, bind_of_ok hl, bind_of_ok hr, hp]
    rfl
  case movImm Rd imm =>
    have hh : (movImm Rd imm).handler overflow ctx.insnCtx = .ok ((), _) :=
      (bind_of_ok setReg_eq).trans <| setMovCondCode_eq <| h.setsFlags _
    exact ⟨_, hh, ((hd.setReg (lowReg Rd) _).setPsr _).finish_next rfl 2⟩
  case subReg Rd Rn Rm =>
    have hm (psr : Word) : getReg (lowRegNo Rm) (ctx.insnCtx.setPsr psr) =
        .ok (g.reg (lowReg Rm), ctx.insnCtx.setPsr psr) :=
      getReg_eq.trans <| by rw [InsnEmuCtx.setPsr_reg, reg_eq]
    have hh : (subReg Rd Rn Rm).handler overflow ctx.insnCtx = .ok ((), _) :=
      arithmetic_eq hm <| setSubCondCode_eq <| h.setsFlags _
    rw [reg_eq] at hh
    exact ⟨_, hh, ((hd.setPsr _).setReg (lowReg Rd) _).finish_next rfl 2⟩
  case subImm Rdn imm =>
    have hh : (subImm Rdn imm).handler overflow ctx.insnCtx = .ok ((), _) :=
      arithmetic_eq (fun _ => rfl) <| setSubCondCode_eq <| h.setsFlags _
    rw [reg_eq] at hh
    exact ⟨_, hh, ((hd.setPsr _).setReg (lowReg Rdn) _).finish_next rfl 2⟩
  case bicsImm Rd Rn imm =>
    have hh : (bicsImm Rd Rn imm).handler overflow ctx.insnCtx = .ok ((), _) :=
      (logical_eq rfl).trans <| setMovCondCode_eq setsFlags_true
    rw [reg_eq] at hh
    exact ⟨_, hh, ((hd.setReg (lowReg Rd) _).setPsr _).finish_next rfl 4⟩
  case ldrReg Rt Rn Rm =>
    refine ⟨_, ?_, (hd.setReg (lowReg Rt) _).finish_next rfl 2⟩
    rw [handler, i16LdrRegT1, lowRegNo, lowRegNo, bind_of_ok getReg_eq, bind_of_ok getReg_eq, reg_eq,
      reg_eq]
    exact ldr_ok <| h.read32 <| hn _ rfl
  case strReg Rt Rn Rm =>
    obtain ⟨memory, hw, hl, hc⟩ := h.write32 (v := g.reg (lowReg Rt)) (hn _ rfl)
    have hs : (g.store (rs.map Region.area) (g.reg (lowReg Rn) + g.reg (lowReg Rm))
        (g.reg (lowReg Rt))).Describes rs (ctx.insnCtx.setMemory memory).emuCtx :=
      { addrSpace := h.addrSpace, layout := hl, bytes := hc, reg := h.reg, itState := h.itState }
    refine ⟨_, ?_, hs.finish_next rfl 2⟩
    rw [handler, i16StrRegT1, lowRegNo, lowRegNo, bind_of_ok getReg_eq, bind_of_ok getReg_eq, reg_eq,
      reg_eq]
    refine str_ok ?_
    rw [reg_eq]
    exact hw
  case cbz Rn offset =>
    have hr : (BranchInsn.cbnzT1 false Rn 0).opcode.callHandler _
        (some (emulationCallbacks noHost)) ctx.insnCtx = _ := BranchInsn.callHandler_result he
    refine ⟨_, (congrFun BranchInsn.callHandler_cbnzT1 _).symm.trans hr, ?_⟩
    have ht : (BranchInsn.cbnzT1 false Rn 0).taken ctx.insnCtx = (g.reg (lowReg Rn) == 0) := by
      rw [BranchInsn.taken, reg_eq, Bool.xor_false]
    rw [BranchInsn.result, ht, effect]
    by_cases hz : g.reg (lowReg Rn) = 0
    case pos =>
      rw [if_pos hz, if_pos (by simpa using hz)]
      exact describes_branch h offset 2
    case neg =>
      rw [if_neg hz, if_neg (by simpa using hz)]
      exact hd.finish_next rfl 2
  case b offset =>
    have hr : (BranchInsn.bT2 0).opcode.callHandler _ (some (emulationCallbacks noHost))
        ctx.insnCtx = _ := BranchInsn.callHandler_result he
    exact ⟨_, (congrFun BranchInsn.callHandler_bT2 _).symm.trans hr, describes_branch h offset 2⟩

theorem insnWord_eq (h : g.Describes rs ctx) (hf : g.Fetches (rs.map Region.area) i) :
    ctx.insnWord = .ok (i.word <| g.halfword (rs.map Region.area) (g.pc + 2)) := by
  have hn := hf.noWrap
  have hp : (g.pc + 2).toNat = g.pc.toNat + 2 := by
    simp only [BitVec.toNat_add, BitVec.reduceToNat]
    omega
  have hu := h.read16 (a := g.pc) (by omega)
  have hl := h.read16 (a := g.pc + 2) (by omega)
  have hw : i.word (g.halfword (rs.map Region.area) (g.pc + 2)) =
      i.upper.setWidth 32 <<< 16 ||| (g.halfword (rs.map Region.area) (g.pc + 2)).setWidth 32 := by
    have ho : i.lower.getD (g.halfword (rs.map Region.area) (g.pc + 2)) =
        g.halfword (rs.map Region.area) (g.pc + 2) := by
      cases hi : i.lower
      case none   => rfl
      case some l => exact (hf.lower l hi).symm
    rw [word, ho, ← BitVec.setWidth_append_eq_shiftLeft_setWidth_or, BitVec.setWidth_eq]
  rw [EmuCtx.insnWord, addrspaceReadInsnWord, h.pc, hu, hl, hw, hf.upper]
  rfl

-- A step of the emulator does what the instruction is meant to do.
theorem leads (hf : g.Fetches (rs.map Region.area) i) (he : i.Encodable) (hn : i.NoOverflow g) :
    Leads (cpuSingleStep host) (Guest.Describes rs) 1 g (i.effect (rs.map Region.area) g) := by
  refine Leads.single fun ctx h => ?_
  have hw := insnWord_eq h hf
  generalize hx : i.word (g.halfword (rs.map Region.area) (g.pc + 2)) = w at hw
  have ⟨s, hs, hd⟩ := handler_effect host.signedOverflow h he hn
  have ho : decode w = some i.opcode :=
    hx ▸ decode_eq_of_matches firstMatchOf_opcode word_matches (List.forall_mem_nil _)
  have hl : insnLength w = i.size := by
    rw [insnLength, ho]
    exact opcode_length
  refine ⟨_, cpuSingleStep_ok_iff.mpr ⟨_, s, hw, rfl, ?_⟩, hl ▸ hd⟩
  rw [handlers_of_exec <| shouldExec_of_itState h.itState]
  refine decodeInsn_ok_iff ho |>.mpr ⟨?_, hl.trans opcode_length.symm⟩
  rw [← hx, callHandler_eq]
  exact hs

end GuestInsn
