import Thumb2Sim.Cpu.Basic

-- The helper functions of the instruction handlers.

open Program

-- The macros `BITMASK_FULL`, `BITMASK` and `BITMASK_SH`.
def bitmaskFull (bit : Nat) : Word :=
  ((1 : BitVec 64) <<< bit - 1).setWidth 32

def bitmask (hi lo : Nat) : Word :=
  bitmaskFull (hi + 1) &&& ~~~bitmaskFull lo

def bitmaskSh (hi lo : Nat) : Word :=
  bitmask hi lo >>> lo

-- The value that `BITMASK_MOVE` assigns to `dst`.
def bitmaskMove (dst src : Word) (hi lo : Nat) : Word :=
  dst &&& ~~~bitmask hi lo ||| src &&& bitmask hi lo

def relativeBranchTarget (aPC aImmediate : Word) (aImmBits : Byte) : Except Undefined Word := do
  if aImmediate ≥ (← CInt.shl (1 : Word) (aImmBits.toNat - 1)) then
    return aPC - (4 + 2 * ((← CInt.shl (1 : Word) aImmBits.toNat) - aImmediate)) + 8
  else
    return aPC + 2 * aImmediate + 4

structure BarrelshifterOutput where
  value : Word
  carry : Bool
deriving DecidableEq

def barrelShift (inValue : Word) (aType aImm : Byte) : Except Undefined BarrelshifterOutput := do
  if aType = typeLsl then
    return { value := ← CInt.shl inValue aImm.toNat, carry := inValue &&& 0x80000000 ≠ 0 }
  else if aType = typeLsr then
    let carry := inValue &&& (← CInt.shl (1 : Word) (aImm.toNat - 1))
    return { value := ← CInt.shr inValue aImm.toNat, carry := carry ≠ 0 }
  else if aType = typeRor then
    let loMask := (← CInt.shl (1 : Word) aImm.toNat) - 1
    let hiMask := ~~~loMask
    let lo ← CInt.shl (inValue &&& loMask) (32 - aImm.toNat)
    let hi ← CInt.shr (inValue &&& hiMask) aImm.toNat
    return { value := lo ||| hi, carry := false }
  else
    return { value := 0xabcdef, carry := false }

def condSatisfied (psr : Word) (aCond : Byte) : Bool :=
  match aCond.toNat with
  | 0  => psr &&& flagZero == flagZero
  | 1  => psr &&& flagZero == 0
  | 2  => psr &&& flagCarry == flagCarry
  | 3  => psr &&& flagCarry == 0
  | 4  => psr &&& flagNegative == flagNegative
  | 5  => psr &&& flagNegative == 0
  | 6  => psr &&& flagOverflow == flagOverflow
  | 7  => psr &&& flagOverflow == 0
  | 8  => psr &&& (flagCarry ||| flagZero) == flagCarry
  | 9  => psr &&& (flagCarry ||| flagZero) != flagCarry
  | 10 => (psr &&& flagNegative == 0) == (psr &&& flagOverflow == 0)
  | 11 => (psr &&& flagNegative == 0) != (psr &&& flagOverflow == 0)
  | 12 => psr &&& flagZero == 0 && (psr &&& flagNegative == 0) == (psr &&& flagOverflow == 0)
  | 13 => psr &&& flagZero == flagZero || (psr &&& flagNegative == 0) != (psr &&& flagOverflow == 0)
  | 14 => true
  | _  => true

def emulatorShouldExecNextInsn (cpu : Cpu) : Bool :=
  let currentItState := cpu.itState &&& 0x03
  currentItState == itNone ||
  currentItState == itThen && condSatisfied cpu.psr cpu.itCond ||
  currentItState == itElse && condSatisfied cpu.psr (cpu.itCond ^^^ 1)

def addCondCode (aX aY : Word) : Word :=
  let result := aX + aY
  (if result = 0 then flagZero else 0) |||
  (if result.toInt < 0 then flagNegative else 0) |||
  (if result < aX ∨ result < aY then flagCarry else 0) |||
  if aX &&& 0x80000000 = aY &&& 0x80000000 then
    if aX &&& 0x80000000 ≠ result &&& 0x80000000 then flagOverflow else 0
  else
    0

-- Whether `sY - sX - 1 >= 0`. A build that excludes an overflow compares the operands.
def SignedOverflow.differs (aX aY : Word) : SignedOverflow → Bool
  | wraps    => (aY - aX - 1).toInt ≥ 0
  | excluded => aY.toInt > aX.toInt

-- The sign of `sX - sY` is the highest bit of the difference in both builds.
def subCondCode (overflow : SignedOverflow) (aX aY : Word) : Word :=
  (if (aX - aY).toInt < 0 then flagNegative else 0) |||
  (if aX = aY then flagZero else 0) |||
  (if aX ≥ aY then flagCarry else 0) |||
  if ¬(aX.toInt ≥ 0 ↔ aY.toInt ≥ 0) ∧ (overflow.differs aX aY ↔ aY > aX) then flagOverflow else 0

def movCondCode (aX : Word) : Word :=
  (if aX &&& 0x80000000 ≠ 0 then flagNegative else 0) ||| if aX = 0 then flagZero else 0

namespace Emu

variable {U : Type}

def emulatorExecutionUnconditionally : Emu U Bool := do
  return (← getItState) &&& 0x03 == itNone

def setCondCode (value : Word) : Emu U Unit := do
  setPsr ((← getPsr) &&& ~~~flagMask ||| value)

def setMovCondCode (alwaysSet : Bool) (value : Word) : Emu U Unit := do
  let unconditionally ← emulatorExecutionUnconditionally
  when (alwaysSet || unconditionally) do
    setPsr ((← getPsr) &&& ~~~(flagNegative ||| flagZero) ||| movCondCode value)

def setLslCondCode (alwaysSet : Bool) (value : Word) (aCarry : Bool) : Emu U Unit := do
  let unconditionally ← emulatorExecutionUnconditionally
  when (alwaysSet || unconditionally) do
    setPsr ((← getPsr) &&& ~~~(flagNegative ||| flagZero ||| flagCarry) |||
      (movCondCode value ||| if aCarry then flagCarry else 0))

def setSubCondCode (overflow : SignedOverflow) (alwaysSet : Bool) (valueA valueB : Word) :
    Emu U Unit := do
  let unconditionally ← emulatorExecutionUnconditionally
  when (alwaysSet || unconditionally) do
    setCondCode (subCondCode overflow valueA valueB)

def setAddCondCode (alwaysSet : Bool) (valueA valueB : Word) : Emu U Unit := do
  let unconditionally ← emulatorExecutionUnconditionally
  when (alwaysSet || unconditionally) do
    setCondCode (addCondCode valueA valueB)

-- The loop of `storeRegisters` over the numbers of the registers, with the address as accumulator.
def storeRegistersLoop (aRegisters : BitVec 16) (aIncrementAfter : Bool) :
    List Nat → Word → Emu U Word
  | [],             addr => return addr
  | regNo :: regNos, addr =>
    if aRegisters.getLsbD regNo then do
      let addr := if aIncrementAfter then addr else addr - 4
      write32 addr (← getReg (BitVec.ofNat 8 regNo))
      let addr := if aIncrementAfter then addr + 4 else addr
      storeRegistersLoop aRegisters aIncrementAfter regNos addr
    else
      storeRegistersLoop aRegisters aIncrementAfter regNos addr

def storeRegisters (aBaseRegister : RegNo) (aRegisters : BitVec 16)
    (aIncrementAfter aWriteback : Bool) : Emu U Unit := do
  let addr ← getReg aBaseRegister
  let regNos := if aIncrementAfter then List.range 16 else (List.range 16).reverse
  let addr ← storeRegistersLoop aRegisters aIncrementAfter regNos addr
  when aWriteback <| setReg aBaseRegister addr

def loadRegistersLoop (aRegisters : BitVec 16) : List Nat → Word → Emu U Word
  | [],     addr => return addr
  | i :: l, addr =>
    if aRegisters.getLsbD i then do
      if i ≠ regPc.toNat then
        setReg (BitVec.ofNat 8 i) (← read32 addr)
        loadRegistersLoop aRegisters l (addr + 4)
      else
        setAdvancePc false
        setReg (BitVec.ofNat 8 i) ((← read32 addr) &&& ~~~1)
        loadRegistersLoop aRegisters l (addr + 4)
    else
      loadRegistersLoop aRegisters l addr

def loadRegisters (aBaseRegister : RegNo) (aRegisters : BitVec 16) (aWriteback : Bool) :
    Emu U Unit := do
  let addr ← getReg aBaseRegister
  let addr ← loadRegistersLoop aRegisters (List.range 16) addr
  when aWriteback <| setReg aBaseRegister addr

end Emu
