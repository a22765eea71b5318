import Thumb2Sim.AddressSpace.Region

-- The names of the image files are left out: what they hold is a parameter of `memory`.
structure HardwareParams where
  romSizeBytes   : Word
  ramSizeBytes   : Word
  ivtBaseAddress : Word
  romBaseAddress : Word
  ramBaseAddress : Word
deriving DecidableEq

def defaultParameters : HardwareParams where
  romSizeBytes   := 1024 * 1024
  ramSizeBytes   := 128 * 1024
  ivtBaseAddress := 0x0
  romBaseAddress := 0x0
  ramBaseAddress := 0x20000000

-- The buffer is zero where the image does not reach, and what is too long of the image is cut off.
def loadFile (image : List Byte) (length : Nat) : List Byte :=
  image.take length ++ List.replicate (length - image.length) 0

theorem loadFile_length (image : List Byte) (n : Nat) : (loadFile image n).length = n := by
  simp [loadFile]
  omega

namespace HardwareParams

variable (hw : HardwareParams)

-- The buffers that `init_cortexm` allocates are the allocations zero and one.
def rom : Region where
  startAddr     := hw.romBaseAddress
  length        := hw.romSizeBytes
  data          := { block := 0, offset := 0 }
  readOnly      := true
  shadowMapping := false

def ram : Region where
  startAddr     := hw.ramBaseAddress
  length        := hw.ramSizeBytes
  data          := { block := 1, offset := 0 }
  readOnly      := false
  shadowMapping := false

def regions : List Region :=
  [hw.rom, hw.ram]

-- The address space of `init_cortexm`.
def addrSpace : Addrspace where
  slices    := hw.regions.map Region.slice
  length_le := by simp [regions, maxAddressSlices]

-- The buffers of `init_cortexm` with the images in them.
def memory (rom ram : List Byte) : HostMemory
  | 0 => loadFile rom hw.romSizeBytes.toNat
  | 1 => loadFile ram hw.ramSizeBytes.toNat
  | _ => []

theorem ofRegions_regions : Addrspace.ofRegions hw.regions = some hw.addrSpace :=
  rfl

end HardwareParams
