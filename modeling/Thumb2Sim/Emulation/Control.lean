import Thumb2Sim.Emulation.Basic

open Program

namespace Emu

variable {U : Type}

-- Sets PC without the regular advance behind the instruction.
def branch (target : Word → Except Undefined Word) : Emu U Unit := do
  setReg regPc (← checked <| target (← getReg regPc))
  setAdvancePc false

-- The offset is a number of halfwords.
def branchBy (imm : Word) : Emu U Unit :=
  branch fun pc => return pc + 2 * imm + 4

-- Runs a function of the host.
def callHost {α : Type} (f : EmuCtx U → EmuCtx U × α) : Emu U α :=
  fun s => .ok ((f s.emuCtx).2, { s with emuCtx := (f s.emuCtx).1 })

def callHost' (f : EmuCtx U → EmuCtx U) : Emu U Unit :=
  callHost fun s => (f s, ())

def whenInstalled {α : Type} (f : Option α) (call : α → Emu U Unit) : Emu U Unit :=
  match f with
  | some f => call f
  | none   => pure ()

def memptr (address length : Word) : Emu U (Option HostPtr) :=
  fun s => .ok (s.emuCtx.addrSpace.memptr address length, s)

end Emu

inductive SyscallGuest
  | read
  | write
  | puts
  | exit
deriving DecidableEq

def SyscallGuest.number : SyscallGuest → Word
  | read  => 0
  | write => 1
  | puts  => 2
  | exit  => 3

namespace Emulation

open Emu

variable {U : Type} (host : Callbacks U)

def i16BT1 (imm cond : Byte) : Emu U Unit := do
  let psr ← getPsr
  when (condSatisfied psr cond) do
    branch fun pc => relativeBranchTarget pc (imm.setWidth 32) 8

def i16BT2 (imm : BitVec 16) : Emu U Unit :=
  branch fun pc => relativeBranchTarget pc (imm.setWidth 32) 11

def i32BT3 (imm : Word) (cond : Byte) : Emu U Unit := do
  let psr ← getPsr
  when (condSatisfied psr cond) do
    branchBy imm

def i32BT4 (imm : Word) : Emu U Unit :=
  branchBy imm

def i32BlT1 (imm : Word) : Emu U Unit := do
  setReg regLr (((← getReg regPc) + 4) ||| 1)
  branchBy imm

def i16BxT1 (Rm : RegNo) : Emu U Unit := do
  setReg regPc ((← getReg Rm) &&& ~~~1)
  setAdvancePc false

def i16CbnzT1 (Rn : RegNo) (imm : Byte) (op : Bool) : Emu U Unit := do
  let value ← getReg Rn
  when ((value == 0) ^^ op) do
    branch fun pc => relativeBranchTarget pc (imm.setWidth 32) 7

def i32TbbT1 (Rn Rm : RegNo) (H : Bool) : Emu U Unit := do
  setAdvancePc false
  setReg regPc ((← getReg regPc) + 4)
  when H do
    let entry ← read16 ((← getReg Rn) + 2 * (← getReg Rm))
    setReg regPc ((← getReg regPc) + 2 * entry.setWidth 32)

-- The number of slots behind the first one: the loop ends at the lowest bit of `mask` that is set.
def itT1Len (mask : Byte) : Nat :=
  3 - ((List.range 3).takeWhile fun i => !mask.getLsbD i).length

-- The slot for the bit `3 - i` of `mask`.
def itT1Slot (firstcond mask : Byte) (i : Nat) : Byte :=
  if (mask >>> (3 - i)) &&& 1 = firstcond &&& 1 then itThen else itElse

-- The slots are pushed one by one, the last one first. What is left of an earlier block moves up.
def itT1State (firstcond mask itState : Byte) : Byte :=
  let slots := (List.range (itT1Len mask)).reverse.map (itT1Slot firstcond mask)
  (slots ++ [itThen]).foldl (fun itState slot => itState <<< 2 ||| slot) itState

def i16ItT1 (firstcond mask : Byte) : Emu U Unit :=
  fun s => .ok ((), { s with
    emuCtx.cpu.itCond  := firstcond
    emuCtx.cpu.itState := itT1State firstcond mask s.emuCtx.cpu.itState
    shiftInsnItState   := false
  })

-- The numbers of the system calls are distinct, so that at most one function of the host is called.
def syscall (syscallNo dataPtr length : Word) : Emu U Unit := do
  if syscallNo = SyscallGuest.read.number then
    whenInstalled host.emulatorSyscallRead fun read => do
      let data ← memptr dataPtr length
      setReg 0 (← callHost fun ctx => read ctx data length)
  else if syscallNo = SyscallGuest.write.number then
    whenInstalled host.emulatorSyscallWrite fun write => do
      let data ← memptr dataPtr length
      callHost' fun ctx => write ctx data length
  else if syscallNo = SyscallGuest.puts.number then
    whenInstalled host.emulatorSyscallPuts fun puts => do
      let data ← memptr dataPtr length
      callHost' fun ctx => puts ctx data
  else if syscallNo = SyscallGuest.exit.number then
    whenInstalled host.emulatorSyscallExit fun exit =>
      callHost' fun ctx => exit ctx length
  else
    return

def i16BkptT1 (imm : Byte) : Emu U Unit := do
  whenInstalled host.bkptCallback fun bkpt => callHost' fun ctx => bkpt ctx imm
  when (imm = 255) do
    syscall host (← getReg 0) (← getReg 1) (← getReg 2)

def i32MsrT1 (Rn : RegNo) (mask SYSm : Byte) : Emu U Unit :=
  when (SYSm.setWidth 32 &&& bitmaskSh 7 3 = 0 ∧ SYSm.setWidth 32 &&& (1 : Word) <<< 2 = 0) do
    when (mask.getLsbD 0) do
      setPsr (bitmaskMove (← getPsr) (← getReg Rn) 19 16)
    when (mask.getLsbD 1) do
      setPsr (bitmaskMove (← getPsr) (← getReg Rn) 31 27)

def i16NopT1 : Emu U Unit :=
  pure ()

def i32NopT2 : Emu U Unit :=
  pure ()

end Emulation
