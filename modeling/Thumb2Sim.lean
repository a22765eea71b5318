import Thumb2Sim.AddressSpace.Theorems.Bounds
import Thumb2Sim.AddressSpace.Theorems.ByteMap
import Thumb2Sim.Codegen.Theorems.Bitfield
import Thumb2Sim.Decoder.Theorems.Aliases
import Thumb2Sim.Decoder.Theorems.Branches
import Thumb2Sim.Decoder.Theorems.Length
import Thumb2Sim.Decoder.Theorems.Literals
import Thumb2Sim.Emulation.Theorems.Compare
import Thumb2Sim.Emulation.Theorems.Condition
import Thumb2Sim.Emulation.Theorems.Encodings
import Thumb2Sim.Emulation.Theorems.Handlers
import Thumb2Sim.Emulation.Theorems.MultiWord
import Thumb2Sim.Execution.Theorems.Alignment
import Thumb2Sim.Execution.Theorems.Constants
import Thumb2Sim.Execution.Theorems.ItBlock
import Thumb2Sim.Execution.Theorems.ReadOnly
import Thumb2Sim.Execution.Theorems.Reset
import Thumb2Sim.Execution.Theorems.Saturation
import Thumb2Sim.Execution.Theorems.Step
import Thumb2Sim.Execution.Theorems.Syscalls
import Thumb2Sim.Generated.Agreement
import Thumb2Sim.Generated.Priority
import Thumb2Sim.Emulation.Theorems.Shifts
import Thumb2Sim.Decoder.Theorems.Arguments
import Thumb2Sim.Execution.Theorems.Shifts
import Thumb2Sim.Lib.CString
import Thumb2Sim.Lib.PyText
import Thumb2Sim.Gdbserver.Basic
import Thumb2Sim.Qemu.DebuggingProtocol
import Thumb2Sim.Qemu.Theorems.Tokenizer
import Thumb2Sim.Gdbserver.Theorems.Connection
import Thumb2Sim.Qemu.Theorems.Transport
import Thumb2Sim.Qemu.Theorems.Trace
import Thumb2Sim.Lib.Submask
import Thumb2Sim.Generated.Enumeration
import Thumb2Sim.Emulation.Theorems.Arithmetic
import Thumb2Sim.Decoder.Theorems.Offsets
import Thumb2Sim.Emulation.Theorems.Branches
import Thumb2Sim.AddressSpace.Theorems.Words
import Thumb2Sim.Emulation.Theorems.StoreMultiple
import Thumb2Sim.Execution.Theorems.Jumps
import Thumb2Sim.Emulation.Theorems.PcOperand
import Thumb2Sim.Decoder.Theorems.ModifiedImmediates
import Thumb2Sim.Disassembly.Operands
import Thumb2Sim.Emulation.Theorems.BarrelShifter
import Thumb2Sim.Emulation.Theorems.ShiftInstructions
import Thumb2Sim.Emulation.Theorems.BitFields
import Thumb2Sim.Emulation.Theorems.Addressing
import Thumb2Sim.AddressSpace.Theorems.Flat
import Thumb2Sim.Emulation.Theorems.RegisterOffset
import Thumb2Sim.Emulation.Theorems.FlagSetting
import Thumb2Sim.Emulation.Theorems.WideFlagSetting
import Thumb2Sim.Emulation.Theorems.Numeric
import Thumb2Sim.Decoder.Theorems.Registers
import Thumb2Sim.Qemu.Theorems.TraceFile
import Thumb2Sim.Qemu.Theorems.Framing
import Thumb2Sim.Codegen.Partitioner
import Thumb2Sim.Codegen.Theorems.Partitioner
import Thumb2Sim.Emulation.Theorems.ShifterCarry
import Thumb2Sim.Gdbserver.Md5
import Thumb2Sim.Gdbserver.Theorems.Md5
import Thumb2Sim.Execution.Theorems.Buffers
import Thumb2Sim.Lib.Simulation
import Thumb2Sim.Qemu.Recorder
import Thumb2Sim.Qemu.Theorems.Recorder
import Thumb2Sim.Qemu.Theorems.Session
import Thumb2Sim.Lib.HashChain
import Thumb2Sim.Qemu.Theorems.Detection
import Thumb2Sim.Lib.Leads
import Thumb2Sim.Execution.Guest
import Thumb2Sim.Execution.Theorems.Guest
import Thumb2Sim.Cm4test.Ivt
import Thumb2Sim.Execution.Theorems.GuestProgram
import Thumb2Sim.Cm4test.Theorems.Ivt
import Thumb2Sim.Disassembly.Basic
import Thumb2Sim.Disassembly.Callbacks
import Thumb2Sim.Disassembly.Theorems.Prints
import Thumb2Sim.Disassembly.Theorems.Lines
import Thumb2Sim.Execution.Debug
import Thumb2Sim.Disassembly.Theorems.Words
import Thumb2Sim.Execution.Theorems.Debug
import Thumb2Sim.Execution.Theorems.ItDisassembly
import Thumb2Sim.Execution.Theorems.BranchDisassembly
