import Thumb2Sim.AddressSpace.Theorems.ByteMap
import Thumb2Sim.Emulation.Theorems.Branches

open Emulation

-- The numbers of the low registers are taken modulo 8.
instance neZeroEight : NeZero 8 :=
  ⟨by decide⟩

-- What the instructions of a guest program work on. The flags are left out, as the programs do not
-- test them.
structure Guest where
  reg   : Fin 16 → Word
  bytes : ByteMap

-- The offsets of branches are in bytes and relative to the address of the instruction plus 4.
inductive GuestInsn
  | ldrLit  (Rt : Fin 8) (imm : Byte)
  | movImm  (Rd : Fin 8) (imm : Byte)
  | subReg  (Rd Rn Rm : Fin 8)
  | subImm  (Rdn : Fin 8) (imm : Byte)
  | bicsImm (Rd Rn : Fin 8) (imm : Byte)
  | ldrReg  (Rt Rn Rm : Fin 8)
  | strReg  (Rt Rn Rm : Fin 8)
  | cbz     (Rn : Fin 8) (offset : Int)
  | b       (offset : Int)

namespace Guest

variable (areas : List ByteMap.Area) (g : Guest)

def pc : Word :=
  g.reg 15

def setReg (r : Fin 16) (v : Word) : Guest :=
  { g with reg := Function.update g.reg r v }

def next (n : Nat) : Guest :=
  g.setReg 15 (g.pc + BitVec.ofNat 32 n)

def branch (offset : Int) : Guest :=
  g.setReg 15 (g.pc + 4 + BitVec.ofInt 32 offset)

noncomputable def halfword (address : Word) : BitVec 16 :=
  BitVec.ofNat 16 <| g.bytes.read areas address.toNat 2

noncomputable def load (address : Word) : Word :=
  BitVec.ofNat 32 <| g.bytes.read areas address.toNat 4

noncomputable def store (address value : Word) : Guest :=
  { g with bytes := g.bytes.write areas address.toNat <| Bytes.ofNat 4 value.toNat }

end Guest

namespace GuestInsn

-- The first halfword of the encoding, and the second one if there is one.

def upper : GuestInsn → BitVec 16
  | ldrLit Rt imm    => 0b01001#5 ++ BitVec.ofNat 3 Rt ++ imm
  | movImm Rd imm    => 0b00100#5 ++ BitVec.ofNat 3 Rd ++ imm
  | subReg Rd Rn Rm  => 0b0001101#7 ++ BitVec.ofNat 3 Rm ++ BitVec.ofNat 3 Rn ++ BitVec.ofNat 3 Rd
  | subImm Rdn imm   => 0b00111#5 ++ BitVec.ofNat 3 Rdn ++ imm
  | bicsImm _ Rn _   => 0b111100000011#12 ++ BitVec.ofNat 4 Rn
  | ldrReg Rt Rn Rm  => 0b0101100#7 ++ BitVec.ofNat 3 Rm ++ BitVec.ofNat 3 Rn ++ BitVec.ofNat 3 Rt
  | strReg Rt Rn Rm  => 0b0101000#7 ++ BitVec.ofNat 3 Rm ++ BitVec.ofNat 3 Rn ++ BitVec.ofNat 3 Rt
  | cbz Rn offset    =>
    let imm := BitVec.ofInt 6 (offset / 2)
    0b1011#4 ++ BitVec.ofBool false ++ 0#1 ++ imm.extractLsb' 5 1 ++ 1#1 ++ imm.extractLsb' 0 5 ++
      BitVec.ofNat 3 Rn
  | b offset         => 0b11100#5 ++ BitVec.ofInt 11 (offset / 2)

def lower : GuestInsn → Option (BitVec 16)
  | bicsImm Rd _ imm => some <| 0#4 ++ BitVec.ofNat 4 Rd ++ imm
  | _                => none

def halfwords (i : GuestInsn) : List (BitVec 16) :=
  i.upper :: i.lower.toList

def size (i : GuestInsn) : Nat :=
  2 * i.halfwords.length

-- The opcode that is fetched if `next` follows in the memory.
def word (i : GuestInsn) (next : BitVec 16) : Word :=
  i.upper ++ i.lower.getD next

-- The fields can express the offset of a branch.
def Encodable : GuestInsn → Prop
  | cbz Rn offset => (BranchInsn.cbnzT1 false Rn 0).Reaches offset
  | b offset      => (BranchInsn.bT2 0).Reaches offset
  | _             => True

instance : DecidablePred Encodable
  | cbz _ offset => inferInstanceAs <| Decidable (2 ∣ offset ∧ 0 ≤ offset ∧ offset < 2 * 2 ^ 6)
  | b offset     =>
    inferInstanceAs <| Decidable (2 ∣ offset ∧ -(2 ^ 11) ≤ offset ∧ offset < 2 ^ 11)
  | ldrLit .. | movImm .. | subReg .. | subImm .. | bicsImm .. | ldrReg .. | strReg .. =>
    inferInstanceAs <| Decidable True

-- The address of the word that is transferred.
def address (g : Guest) : GuestInsn → Option Word
  | ldrLit _ imm    => some <| (g.pc &&& ~~~3) + 4 + 4 * imm.setWidth 32
  | ldrReg _ Rn Rm  => some <| g.reg (lowReg Rn) + g.reg (lowReg Rm)
  | strReg _ Rn Rm  => some <| g.reg (lowReg Rn) + g.reg (lowReg Rm)
  | _               => none

def NoOverflow (g : Guest) (i : GuestInsn) : Prop :=
  ∀ a ∈ i.address g, a.toNat + 4 ≤ 2 ^ 32

-- What the instruction is meant to do.
noncomputable def effect (areas : List ByteMap.Area) (g : Guest) : GuestInsn → Guest
  | ldrLit Rt imm    =>
    g.setReg (lowReg Rt) (g.load areas <| (g.pc &&& ~~~3) + 4 + 4 * imm.setWidth 32) |>.next 2
  | movImm Rd imm    => g.setReg (lowReg Rd) (imm.setWidth 32) |>.next 2
  | subReg Rd Rn Rm  => g.setReg (lowReg Rd) (g.reg (lowReg Rn) - g.reg (lowReg Rm)) |>.next 2
  | subImm Rdn imm   => g.setReg (lowReg Rdn) (g.reg (lowReg Rdn) - imm.setWidth 32) |>.next 2
  | bicsImm Rd Rn imm =>
    g.setReg (lowReg Rd) (g.reg (lowReg Rn) &&& ~~~imm.setWidth 32) |>.next 4
  | ldrReg Rt Rn Rm  =>
    g.setReg (lowReg Rt) (g.load areas <| g.reg (lowReg Rn) + g.reg (lowReg Rm)) |>.next 2
  | strReg Rt Rn Rm  =>
    g.store areas (g.reg (lowReg Rn) + g.reg (lowReg Rm)) (g.reg (lowReg Rt)) |>.next 2
  | cbz Rn offset    => if g.reg (lowReg Rn) = 0 then g.branch offset else g.next 2
  | b offset         => g.branch offset

end GuestInsn

-- The instruction that the next step executes.
structure Guest.Fetches (areas : List ByteMap.Area) (g : Guest) (i : GuestInsn) : Prop where
  noWrap : g.pc.toNat + 4 ≤ 2 ^ 32
  upper  : g.halfword areas g.pc = i.upper
  lower  : ∀ l ∈ i.lower, g.halfword areas (g.pc + 2) = l

-- The code of instructions that follow each other.
def assemble (is : List GuestInsn) : List (BitVec 16) :=
  is.flatMap GuestInsn.halfwords

-- The halfwords are in the memory from an address on, and not at its end.
structure ByteMap.HoldsCode (areas : List ByteMap.Area) (m : ByteMap) (address : Nat)
    (code : List (BitVec 16)) : Prop where
  noWrap   : address + 2 * code.length + 2 ≤ 2 ^ 32
  halfword : ∀ k hw, code[k]? = some hw →
    BitVec.ofNat 16 (m.read areas (address + 2 * k) 2) = hw
