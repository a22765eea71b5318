import Thumb2Sim.Emulation.LoadStore
import Thumb2Sim.Emulation.Theorems.Evaluation

open Program Emu

namespace Emulation

variable {U : Type}

-- The loads and stores with their registers.
inductive Transfer
  | ldr (Rt : Fin 16)
  | ldrb (Rt : Fin 16)
  | ldrd (Rt Rtx : Fin 16)
  | str (Rt : Fin 16)
  | strb (Rt : Fin 16)
  | strd (Rt Rtx : Fin 16)

namespace Transfer

variable {s t : InsnEmuCtx U} {Rt : Fin 16} {address : Word}

-- What is transferred between the registers and the memory at an address.
def run (s : InsnEmuCtx U) (address : Word) : Transfer → Except Undefined (InsnEmuCtx U)
  | ldr Rt      => (s.emuCtx.addrSpace.read32 s.emuCtx.memory address).map (s.setReg Rt)
  | ldrb Rt     => (s.emuCtx.addrSpace.read8 s.emuCtx.memory address).map fun byte =>
    s.setReg Rt (byte.setWidth 32)
  | ldrd Rt Rtx => do
    let word  ← s.emuCtx.addrSpace.read32 s.emuCtx.memory address
    let word' ← s.emuCtx.addrSpace.read32 s.emuCtx.memory (address + 4)
    return (s.setReg Rt word).setReg Rtx word'
  | str Rt      =>
    (s.emuCtx.addrSpace.write32 s.emuCtx.memory address (s.emuCtx.cpu.reg Rt)).map s.setMemory
  | strb Rt     =>
    let byte := (s.emuCtx.cpu.reg Rt).setWidth 8
    (s.emuCtx.addrSpace.write8 s.emuCtx.memory address byte).map s.setMemory
  | strd Rt Rtx => do
    let memory ← s.emuCtx.addrSpace.write32 s.emuCtx.memory address (s.emuCtx.cpu.reg Rt)
    let memory ← s.emuCtx.addrSpace.write32 memory (address + 4) (s.emuCtx.cpu.reg Rtx)
    return s.setMemory memory

-- The registers that get a value from the memory.
def loaded : Transfer → List (Fin 16)
  | ldr Rt | ldrb Rt        => [Rt]
  | ldrd Rt Rtx             => [Rt, Rtx]
  | str _ | strb _ | strd .. => []

-- The helper functions of the handlers.

theorem ldr_eq : Emu.ldr (regNo Rt) address s = ((ldr Rt).run s address).map ((), ·) := by
  rw [Emu.ldr, read32, load_bind, run]
  simp only [setReg_eq]
  cases s.emuCtx.addrSpace.read32 s.emuCtx.memory address <;> rfl

theorem ldrb_eq : Emu.ldrb (regNo Rt) address s = ((ldrb Rt).run s address).map ((), ·) := by
  rw [Emu.ldrb, read8, load_bind, run]
  simp only [setReg_eq]
  cases s.emuCtx.addrSpace.read8 s.emuCtx.memory address <;> rfl

theorem str_eq : Emu.str (regNo Rt) address s = ((str Rt).run s address).map ((), ·) := by
  rw [Emu.str, bind_of_ok getReg_eq, write32, store, run]
  cases s.emuCtx.addrSpace.write32 s.emuCtx.memory address (s.emuCtx.cpu.reg Rt) <;> rfl

theorem lowByte_eq (x : Word) : (x &&& 0xff).setWidth 8 = x.setWidth 8 := by
  rw [BitVec.setWidth_and]
  exact BitVec.and_allOnes

theorem strb_eq : Emu.strb (regNo Rt) address s = ((strb Rt).run s address).map ((), ·) := by
  rw [Emu.strb, bind_of_ok getReg_eq, lowByte_eq, write8, store, run]
  cases s.emuCtx.addrSpace.write8 s.emuCtx.memory address ((s.emuCtx.cpu.reg Rt).setWidth 8) <;> rfl

theorem ldrd_run {Rtx : Fin 16} : (ldrd Rt Rtx).run s address =
    (ldr Rt).run s address >>= fun t => (ldr Rtx).run t (address + 4) := by
  rw [run, run]
  cases s.emuCtx.addrSpace.read32 s.emuCtx.memory address <;> rfl

theorem strd_run {Rtx : Fin 16} : (strd Rt Rtx).run s address =
    (str Rt).run s address >>= fun t => (str Rtx).run t (address + 4) := by
  rw [run, run]
  cases s.emuCtx.addrSpace.write32 s.emuCtx.memory address (s.emuCtx.cpu.reg Rt) <;> rfl

-- The other registers keep their content.

theorem reg_of_ldr {r : Fin 16} (h : (ldr Rt).run s address = .ok t) (hr : r ≠ Rt) :
    t.emuCtx.cpu.reg r = s.emuCtx.cpu.reg r := by
  obtain ⟨w, -, rfl⟩ := Except.map_ok_iff.mp h
  exact Function.update_of_ne hr w s.emuCtx.cpu.reg

theorem reg_of_str (h : (str Rt).run s address = .ok t) :
    t.emuCtx.cpu.reg = s.emuCtx.cpu.reg := by
  obtain ⟨memory, -, rfl⟩ := Except.map_ok_iff.mp h
  rfl

theorem reg_of_run {i : Transfer} {r : Fin 16} (h : i.run s address = .ok t) (hr : r ∉ i.loaded) :
    t.emuCtx.cpu.reg r = s.emuCtx.cpu.reg r := by
  cases i
  case ldr  => exact reg_of_ldr h <| List.ne_of_not_mem_cons hr
  case ldrb =>
    obtain ⟨b, -, rfl⟩ := Except.map_ok_iff.mp h
    exact Function.update_of_ne (List.ne_of_not_mem_cons hr) ..
  case ldrd Rt Rtx =>
    have ⟨h₁, h₂⟩ : r ≠ Rt ∧ r ≠ Rtx := by simpa [loaded] using hr
    rw [ldrd_run] at h
    obtain ⟨t', ht, h⟩ := Except.bind_ok_iff.mp h
    exact (reg_of_ldr h h₂).trans <| reg_of_ldr ht h₁
  case str  => exact congrFun (reg_of_str h) r
  case strb =>
    obtain ⟨memory, -, rfl⟩ := Except.map_ok_iff.mp h
    rfl
  case strd Rt Rtx =>
    rw [strd_run] at h
    obtain ⟨t', ht, h⟩ := Except.bind_ok_iff.mp h
    rw [reg_of_str h, reg_of_str ht]

theorem bind_of_map {m : Emu U Unit} {g : Unit → Emu U Unit}
    {x : Except Undefined (InsnEmuCtx U)} (h : m s = x.map ((), ·)) :
    (m >>= g) s = x >>= g () := by
  change (m s >>= fun p => g p.1 p.2) = _
  rw [h]
  cases x <;> rfl

end Transfer

-- The operands of an indexed access.
structure IndexMode where
  Rn  : Fin 16
  imm : Byte
  P   : Bool
  up  : Bool
  W   : Bool

namespace IndexMode

-- The offset in bytes.
def off (m : IndexMode) : Transfer → Word
  | .ldrd .. | .strd .. => 4 * m.imm.setWidth 32
  | _                   => m.imm.setWidth 32

-- The base after the offset is applied to it.
def moved (m : IndexMode) (cpu : Cpu) (off : Word) : Word :=
  if m.up then cpu.reg m.Rn + off else cpu.reg m.Rn - off

def address (m : IndexMode) (cpu : Cpu) (off : Word) : Word :=
  if m.P then m.moved cpu off else cpu.reg m.Rn

variable {m : IndexMode} {s t : InsnEmuCtx U} {d base : Word}

theorem add_offset (up : Bool) :
    base + offset up d = if up then base + d else base - d := by
  cases up
  case true  => simp [offset]
  case false =>
    have h : (1 : Word) * d = d := BitVec.one_mul d
    rw [offset, if_neg Bool.false_ne_true, if_neg Bool.false_ne_true, BitVec.neg_mul, h,
      BitVec.sub_eq_add_neg]

theorem indexed_eq :
    Emu.indexed (regNo m.Rn) d m.P m.up s = .ok (m.address s.emuCtx.cpu d, s) := by
  rw [Emu.indexed, bind_of_ok getReg_eq, address, moved, ← add_offset]
  cases m.P
  case true  => simp; rfl
  case false => simp; rfl

theorem writeback_eq (h : m.W → t.emuCtx.cpu.reg m.Rn = s.emuCtx.cpu.reg m.Rn) :
    Emu.writeback (regNo m.Rn) d m.up m.W t =
      .ok ((), if m.W then t.setReg m.Rn (m.moved s.emuCtx.cpu d) else t) := by
  rw [Emu.writeback]
  by_cases hw : m.W
  case neg => rw [Bool.eq_false_iff.mpr hw]; rfl
  case pos =>
    rw [hw, moved, ← h hw, ← add_offset]
    exact (bind_of_ok getReg_eq).trans setReg_eq

-- The loads and stores with these operands.
def handler (m : IndexMode) : Transfer → Emu U Unit
  | .ldr Rt      => i32LdrImmT4 (regNo Rt) (regNo m.Rn) m.imm m.P m.up m.W
  | .ldrb Rt     => i32LdrbImmT3 (regNo Rt) (regNo m.Rn) m.imm m.P m.up m.W
  | .ldrd Rt Rtx => i32LdrdImmT1 (regNo Rt) (regNo m.Rn) (regNo Rtx) m.imm m.P m.up m.W
  | .str Rt      => i32StrImmT4 (regNo Rt) (regNo m.Rn) m.imm m.P m.up m.W
  | .strb Rt     => i32StrbImmT3 (regNo Rt) (regNo m.Rn) m.imm m.P m.up m.W
  | .strd Rt Rtx => i32StrdImmT1 (regNo Rt) (regNo m.Rn) (regNo Rtx) m.imm m.P m.up m.W

theorem writeback_bind {i : Transfer} {A : Word} (h : m.W → m.Rn ∉ i.loaded) :
    (i.run s A >>= Emu.writeback (regNo m.Rn) d m.up m.W) =
      (i.run s A).map fun t => ((), if m.W then t.setReg m.Rn (m.moved s.emuCtx.cpu d) else t) := by
  cases hr : i.run s A
  case error => rfl
  case ok t  => exact writeback_eq fun hw => Transfer.reg_of_run hr <| h hw

-- The access is at the address for the mode. The base is written back behind it, as it was in front
-- of it, and nothing else changes.
theorem handler_eq_run (m : IndexMode) (i : Transfer) (h : m.W → m.Rn ∉ i.loaded) :
    m.handler i s = (i.run s <| m.address s.emuCtx.cpu <| m.off i).map fun t =>
      ((), if m.W then t.setReg m.Rn (m.moved s.emuCtx.cpu <| m.off i) else t) := by
  rw [← writeback_bind h]
  cases i
  case ldr => exact (bind_of_ok indexed_eq).trans <| Transfer.bind_of_map Transfer.ldr_eq
  case ldrb => exact (bind_of_ok indexed_eq).trans <| Transfer.bind_of_map Transfer.ldrb_eq
  case str => exact (bind_of_ok indexed_eq).trans <| Transfer.bind_of_map Transfer.str_eq
  case strb => exact (bind_of_ok indexed_eq).trans <| Transfer.bind_of_map Transfer.strb_eq
  case ldrd =>
    rw [Transfer.ldrd_run, bind_assoc]
    refine (bind_of_ok indexed_eq).trans <| (Transfer.bind_of_map Transfer.ldr_eq).trans ?_
    exact bind_congr fun _ => Transfer.bind_of_map Transfer.ldr_eq
  case strd =>
    rw [Transfer.strd_run, bind_assoc]
    refine (bind_of_ok indexed_eq).trans <| (Transfer.bind_of_map Transfer.str_eq).trans ?_
    exact bind_congr fun _ => Transfer.bind_of_map Transfer.str_eq

-- `ldr r0, [r1], #4`
theorem handler_eq_run_ldr : (IndexMode.mk 1 4 false true true).handler (.ldr 0) (cpuWith [0, 8]) =
    (Transfer.run (cpuWith [0, 8]) 8 (.ldr 0)).map fun t => ((), t.setReg 1 12) :=
  handler_eq_run (s := cpuWith [0, 8]) (.mk 1 4 false true true) (.ldr 0) (by decide)

-- `ldr r0, [r0, #-4]` overwrites its base, although there is no writeback.
theorem base_ne_of_ldr : ∃ t,
    (IndexMode.mk 0 4 true false false).handler (.ldr 0) (cpuWith [8]) = .ok ((), t) ∧
    t.emuCtx.cpu.reg 0 ≠ (cpuWith [8]).emuCtx.cpu.reg 0 :=
  ⟨_, rfl, by decide⟩

end IndexMode

end Emulation
