import Thumb2Sim.Codegen.Instructions.AToK
import Thumb2Sim.Codegen.Instructions.LToR
import Thumb2Sim.Codegen.Instructions.S
import Thumb2Sim.Codegen.Instructions.TToY

def instructions : List OpcodeNode :=
  instructionsAToK ++ instructionsLToR ++ instructionsS ++ instructionsTToY
