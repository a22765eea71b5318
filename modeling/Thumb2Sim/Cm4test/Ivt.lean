import Thumb2Sim.Execution.Guest

-- The startup code of the test programs.
namespace Ivt

open GuestInsn

-- The macro `_asm_memset`: `r0` is the destination, `r1` the pattern and `r2` the size in bytes. The
-- assembler makes a `bics` of its first instruction.
def asmMemset : List GuestInsn :=
  [bicsImm 2 2 3, cbz 2 8, subImm 2 4, strReg 1 0 2, cbz 2 2, subImm 2 4, b (-10)]

-- The macro `_asm_memcpy`, with the source address in `r1`.
def asmMemcpy : List GuestInsn :=
  [bicsImm 2 2 3, cbz 2 10, subImm 2 4, ldrReg 3 1 2, strReg 3 0 2, cbz 2 2, subImm 2 4, b (-12)]

-- The part of `Reset_Handler` that sets up the RAM. The offsets of the literals are those of the
-- test programs.
def resetHandler : List GuestInsn :=
  [ldrLit 0 22, ldrLit 1 23, ldrLit 2 23, subReg 2 2 0] ++ asmMemset ++
    [ldrLit 0 19, ldrLit 1 20, ldrLit 2 20, subReg 2 2 0] ++ asmMemcpy ++
    [ldrLit 0 16, movImm 1 0, ldrLit 2 16, subReg 2 2 0] ++ asmMemset

-- What `simple_test.bin` has at the address 0x0800029c.
example : assemble resetHandler =
    [0x4816, 0x4917, 0x4a17, 0x1a12, 0xf032, 0x0203, 0xb122, 0x3a04, 0x5081, 0xb10a, 0x3a04, 0xe7fb,
      0x4813, 0x4914, 0x4a14, 0x1a12, 0xf032, 0x0203, 0xb12a, 0x3a04, 0x588b, 0x5083, 0xb10a, 0x3a04,
      0xe7fa, 0x4810, 0x2100, 0x4a10, 0x1a12, 0xf032, 0x0203, 0xb122, 0x3a04, 0x5081, 0xb10a, 0x3a04,
      0xe7fb] := by
  decide

-- The symbols of the linker script that the code refers to.
structure Symbols where
  sram   : Word
  eram   : Word
  sdata  : Word
  sidata : Word
  edata  : Word
  sbss   : Word
  ebss   : Word

-- The literals, in the order in which they are behind the code.
def Symbols.pool (sym : Symbols) : List Word :=
  [sym.sram, 0xdeadbeef, sym.eram, sym.sdata, sym.sidata, sym.edata, sym.sbss, sym.ebss]

-- The number of words from one address to another.
def wordCount (start stop : Word) : Nat :=
  (stop.toNat - start.toNat) / 4

-- The words of a range with one and the same value.
def fill (m : ByteMap) (start stop value : Word) : ByteMap :=
  m.update start.toNat (List.replicate (wordCount start stop) <| Bytes.ofNat 4 value.toNat).flatten

-- What the startup code makes of the memory: the RAM is painted, the section `.data` gets its
-- initial values and the section `.bss` is zero.
def startup (sym : Symbols) (m : ByteMap) : ByteMap :=
  let image := m.bytes sym.sidata.toNat (4 * wordCount sym.sdata sym.edata)
  fill ((fill m sym.sram sym.eram 0xdeadbeef).update sym.sdata.toNat image) sym.sbss sym.ebss 0

end Ivt
