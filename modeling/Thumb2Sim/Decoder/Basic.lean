import Thumb2Sim.Lib.Pattern
import Thumb2Sim.Lib.Program
import Thumb2Sim.Lib.Undefined
import Thumb2Sim.AddressSpace.Basic

-- The encodings of the instruction set.
inductive Variant
  | adcImmT1 | adcRegT1 | adcRegT2 | addSPiT1 | addSPiT2 | addImmT1 | addImmT2 | addRegT1 | adrT1
  | andRegT1 | asrImmT1 | asrRegT1 | asrRegT2 | bT2 | bicImmT1 | bicRegT1 | bicRegT2 | bkptT1
  | blxRegT1 | bxT1 | cbnzT1 | clzT1 | cmnRegT1 | cmpImmT1 | cmpRegT1 | cmpRegT2 | cpsT1 | eorRegT1
  | ldmT1 | ldmdbT1 | ldrImmT1 | ldrImmT2 | ldrLitT1 | ldrRegT1 | ldrbImmT1 | ldrbRegT1 | ldrhImmT1
  | ldrhRegT1 | ldrsbRegT1 | ldrshRegT1 | lslRegT1 | lslRegT2 | lsrImmT1 | lsrRegT1 | lsrRegT2
  | mcr2T2 | mlsT1 | movImmT1 | movRegT1 | movtT1 | mrc2T2 | mulT1 | mvnRegT1 | orrRegT1 | pkhbtT1
  | popT1 | pushT1 | qadd16T1 | qadd8T1 | qaddT1 | qdaddT1 | qdsubT1 | qsub16T1 | qsub8T1 | qsubT1
  | rbitT1 | rev16T1 | rev16T2 | revT1 | revT2 | revshT1 | revshT2 | rorRegT1 | rorRegT2 | rsbImmT1
  | rsbImmT2 | rsbRegT1 | sadd16T1 | sadd8T1 | sasxT1 | sbcImmT1 | sbcRegT1 | sbcRegT2 | sbfxT1
  | sdivT1 | selT1 | shadd16T1 | shadd8T1 | shasxT1 | shsaxT1 | shsub16T1 | shsub8T1 | smlalT1
  | smlalbbT1 | smlaldT1 | smlsldT1 | smmlsT1 | smullT1 | ssaxT1 | ssub16T1 | ssub8T1 | stmT1
  | stmT2 | strImmT1 | strImmT2 | strImmT3 | strRegT1 | strRegT2 | strbImmT1 | strbImmT2 | strbRegT1
  | strbRegT2 | strhImmT1 | strhImmT2 | strhRegT1 | strhRegT2 | subSPimmT1 | subImmT1 | subImmT2
  | subRegT1 | sxtbT1 | sxthT1 | tstRegT1 | uadd16T1 | uadd8T1 | uasxT1 | ubfxT1 | udivT1
  | uhadd16T1 | uhadd8T1 | uhasxT1 | uhsaxT1 | uhsub16T1 | uhsub8T1 | umaalT1 | umlalT1 | umullT1
  | uqadd16T1 | uqadd8T1 | uqasxT1 | uqsaxT1 | uqsub16T1 | uqsub8T1 | usaxT1 | usub16T1 | usub8T1
  | uxtbT1 | uxthT1 | addSPiT4 | addSPrT2 | adrT2 | adrT3 | bfcT1 | cmnImmT1 | cmnRegT2 | cmpRegT3
  | ldrexbT1 | ldrexhT1 | ldrhRegT2 | ldrshT1 | ldrshRegT2 | mcrr2T2 | movImmT2 | movRegT2
  | movRegT3 | mrrc2T2 | mulT2 | mvnImmT1 | mvnRegT2 | nopT1 | nopT2 | pldImmlitT3 | pldLitT1
  | popT2 | popT3 | pushT2 | pushT3 | qasxT1 | qsaxT1 | rrxT1 | sevT1 | smmulT1 | smuadT1 | smulbbT1
  | smulwbT1 | smusdT1 | ssat16T1 | strbT1 | strexbT1 | strexhT1 | strhtT1 | subSPimmT3 | svcT1
  | sxtb16T1 | sxtbT2 | sxthT2 | teqImmT1 | teqRegT1 | tstImmT1 | tstRegT2 | udfT1 | usad8T1
  | usat16T1 | uxtb16T1 | uxtbT2 | uxthT2 | vabsT1 | vcvtDpspT1 | vmov2arm2spT1 | vmov2armdwT1
  | vmovArmsclT1 | vmovRegT1 | vmovSclarmT1 | vnegT1 | vrintaT1 | vrintxT1 | vsqrtT1 | wfeT1 | wfiT1
  | yieldT1 | addSPiT3 | addSPrT1 | addSPrT3 | addImmT4 | andImmT1 | andRegT2 | asrImmT2 | bT1
  | bfiT1 | eorImmT1 | eorRegT2 | itT1 | ldc2LitT2 | ldmT2 | ldrLitT2 | ldrexT1 | ldrhtT1
  | ldrsbLitT1 | ldrshImmT2 | lslImmT1 | lslImmT2 | lsrImmT2 | mlaT1 | movImmT3 | ornImmT1
  | ornRegT1 | orrImmT1 | pldRegT1 | rorImmT1 | smlabbT1 | smladT1 | smlawbT1 | smlsdT1 | smmlaT1
  | ssatT1 | stc2T2 | stmdbT1 | strbImmT3 | strexT1 | strhImmT3 | strtT1 | subSPregT1 | subImmT4
  | sxtab16T1 | sxtabT1 | sxtahT1 | udfT2 | usada8T1 | usatT1 | uxtab16T1 | uxtabT1 | uxtahT1
  | vcmpT1 | vcmpT2 | vcvtFltintT1 | vcvtaT1 | vmrsT1 | vmsrT1 | vpopT1 | vpopT2 | vpushT1 | vpushT2
  | vrintzT1 | addImmT3 | addRegT2 | addRegT3 | ldc2ImmT2 | ldrRegT2 | ldrhLitT1 | ldrshLitT1
  | orrRegT2 | pldImmT2 | pldImmlitT2 | sevT2 | strImmT4 | strdImmT1 | subRegT2 | tbbT1 | vcvtbT1
  | vldrT1 | vldrT2 | vmaxnmT1 | vmovArmspT1 | vstrT1 | vstrT2 | wfeT2 | wfiT2 | yieldT2 | dbgT1
  | ldrdLitT1 | ldrhImmT3 | ldrshImmT1 | ldrtT1 | mcrT1 | mrcT1 | pldImmT1 | pldImmlitT1
  | vcvtFltfptT1 | vldmT1 | vldmT2 | vselT1 | vstmT1 | vstmT2 | cdp2T2 | clrexT1 | dmbT1 | dsbT1
  | isbT1 | ldcLitT1 | ldrImmT4 | ldrbRegT2 | ldrdImmT1 | ldrhImmT2 | ldrsbRegT2 | vaddT1 | vdivT1
  | vmovImmT1 | vmulT1 | vnmlaT2 | vsubT1 | ldrImmT3 | ldrbtT1 | ldrsbtT1 | mcrrT1 | mrrcT1 | mrsT1
  | msrT1 | vfmaT1 | vfnmaT1 | vmlaT1 | vnmlaT1 | cdpT1 | ldcImmT1 | ldrbImmT3 | ldrsbImmT2 | stcT1
  | subSPimmT2 | cmpImmT2 | ldrbLitT1 | ldrsbImmT1 | ldrbImmT2 | subImmT3 | bT3 | bT4 | blT1
deriving DecidableEq

-- The names of the handlers' parameters.
inductive Var
  | Rd | Rn | imm | S | Rdn | Rm | type | op | Rmx | F | I | registerList | P | M | W | Rt | coproc
  | CRn | CRm | opcA | opcB | Ra | Crn | Rdm | tb | T | width | RdLo | RdHi | N | R | msb | RtB | U
  | satimm | rotate | Vd | Vm | D | sz | Rtx | H | RM | cond | firstcond | mask | CRd | shift | E
  | Vn | option | sf | sx | SYSm
deriving DecidableEq

-- The types of the handlers' parameters.
inductive CType
  | bool
  | uint8
  | uint16
  | uint32
  | int32
deriving DecidableEq

-- The value of a parameter that is initialized with a 32-bit value.
def CType.convert : CType → Word → Word
  | bool,   x => if x = 0 then 0 else 1
  | uint8,  x => (x.setWidth 8).setWidth 32
  | uint16, x => (x.setWidth 16).setWidth 32
  | uint32, x => x
  | int32,  x => x

def ror32 (inValue : Word) (rotate : Byte) : Except Undefined Word := do
  let loMask := (← CInt.shl (1 : Word) rotate.toNat) - 1
  let hiMask ← CInt.shl ((← CInt.shl (1 : Word) (32 - rotate.toNat)) - 1) rotate.toNat
  return (← CInt.shl (inValue &&& loMask) (32 - rotate.toNat)) |||
    (← CInt.shr (inValue &&& hiMask) rotate.toNat)

def thumbExpandImm (imm : BitVec 16) : Except Undefined Word :=
  let byte := imm.setWidth 32 &&& 0xff
  if imm &&& 0xc00 = 0 then
    if imm &&& 0x300 = 0 then
      return byte
    else if imm &&& 0x300 = 0x100 then
      return byte <<< 16 ||| byte
    else if imm &&& 0x300 = 0x200 then
      return byte <<< 24 ||| byte <<< 8
    else
      return byte <<< 24 ||| byte <<< 16 ||| byte <<< 8 ||| byte
  else
    ror32 (0x80 ||| imm.setWidth 32 &&& 0x7f) (((imm &&& 0xf80) >>> 7).setWidth 8)

def thumbSignExtend (imm : Word) (bitLength : Byte) : Except Undefined Word := do
  if imm &&& (← CInt.shl (1 : Word) (bitLength.toNat - 1)) ≠ 0 then
    return imm ||| ~~~((← CInt.shl (1 : Word) bitLength.toNat) - 1)
  else
    return imm

def thumbSignExtend20 (imm : Word) : Except Undefined Word :=
  thumbSignExtend imm 20

def thumbSignExtend24EOR (imm : Word) : Except Undefined Word :=
  let imm := imm ^^^ ((1 : Word) <<< 21 ^^^ (imm &&& (1 : Word) <<< 23) >>> 2)
  let imm := imm ^^^ ((1 : Word) <<< 22 ^^^ (imm &&& (1 : Word) <<< 23) >>> 1)
  thumbSignExtend imm 24

-- The function that a value is passed through before the handler gets it.
inductive Extension
  | plain
  | thumbExpandImm
  | thumbSignExtend20
  | thumbSignExtend24EOR
deriving DecidableEq

def applyExtension : Extension → Word → Except Undefined Word
  | .plain,                x => return x
  | .thumbExpandImm,       x => thumbExpandImm (x.setWidth 16)
  | .thumbSignExtend20,    x => thumbSignExtend20 x
  | .thumbSignExtend24EOR, x => thumbSignExtend24EOR x

-- The expression `(opcode & mask) >> shift`, or `(opcode & mask) << -shift` if `shift` is negative.
structure Piece where
  mask  : Word
  shift : Int
deriving DecidableEq

def Piece.extract (p : Piece) (opcode : Word) : Word :=
  if 0 ≤ p.shift then
    (opcode &&& p.mask) >>> p.shift.toNat
  else
    (opcode &&& p.mask) <<< (-p.shift).toNat

-- The initialization of a variable that is passed to the handler.
structure Argument where
  type      : CType
  var       : Var
  extension : Extension
  pieces    : List Piece
deriving DecidableEq

namespace Argument

def extract (a : Argument) (opcode : Word) : Word :=
  a.pieces.foldl (fun x p => x ||| p.extract opcode) 0

def value (a : Argument) (opcode : Word) : Except Undefined Word := do
  return a.type.convert (← applyExtension a.extension (a.extract opcode))

end Argument

-- The arguments of a handler by the names of its parameters.
abbrev Args :=
  Var → Word

namespace Args

variable (a : Args) (v : Var)

def bool : Bool :=
  a v ≠ 0

def uint8 : Byte :=
  (a v).setWidth 8

def uint16 : BitVec 16 :=
  (a v).setWidth 16

def int32 : Word :=
  a v

end Args

-- A branch of `decode_insn`.
structure Opcode where
  variant   : Variant
  pattern   : Pattern 32
  length    : Nat
  arguments : List Argument
deriving DecidableEq

def Opcode.args (o : Opcode) (opcode : Word) : Except Undefined Args :=
  o.arguments.foldlM (fun args a => return Function.update args a.var (← a.value opcode)) fun _ => 0

-- The table of handlers, in which pointers may be null.
abbrev DecodingHandler (σ : Type) :=
  Variant → Option (Args → Program σ Undefined Unit)
