import Thumb2Sim.Codegen.Theorems.Bitfield
import Thumb2Sim.Execution.Theorems.Step
import Thumb2Sim.Generated.PythonDecoder
import Thumb2Sim.Lib.Submask

-- The lowest halfwords of a word, the upper one of them first, as they stand in memory.
def halfwords : Nat → Nat → List Byte
  | 0,     _ => []
  | n + 1, w => Bytes.ofNat 2 (w >>> (16 * n)) ++ halfwords n w

-- Every halfword of the data lies in a slice.
def Placed (as : Addrspace) (memory : HostMemory) : Word → List Byte → Prop
  | _,  []                => True
  | _,  [_]               => False
  | pc, lo :: hi :: bytes =>
    (∃ slice, as.getslice pc 2 = some slice ∧ memory.load (slice.ptr pc) 2 = .ok [lo, hi]) ∧
      Placed as memory (pc + 2) bytes

section Words

variable {w : Nat} {lo hi : Byte} {u v : BitVec 16}

theorem append_ofNat (w : Nat) :
    BitVec.ofNat 8 (w / 256) ++ BitVec.ofNat 8 w = (BitVec.ofNat 16 w : BitVec 16) := by
  apply BitVec.eq_of_toNat_eq
  rw [BitVec.toNat_append, BitVec.toNat_ofNat, BitVec.toNat_ofNat, BitVec.toNat_ofNat,
    ← Nat.shiftLeft_add_eq_or_of_lt (Nat.mod_lt _ (by decide)), Nat.shiftLeft_eq]
  omega

-- An opcode as it is made of two halfwords.
def opcodeOf (u v : BitVec 16) : Word :=
  u.setWidth 32 <<< 16 ||| v.setWidth 32

theorem opcodeOf_toNat : (opcodeOf u v).toNat = u.toNat <<< 16 ||| v.toNat := by
  have hu : u.toNat <<< 16 < 2 ^ 32 := Nat.shiftLeft_lt (n := 16) u.isLt
  rw [opcodeOf, BitVec.toNat_or, BitVec.toNat_shiftLeft, BitVec.toNat_setWidth_of_le (by decide),
    BitVec.toNat_setWidth_of_le (by decide), Nat.mod_eq_of_lt hu]

theorem opcodeOf_upper : (opcodeOf u v).toNat >>> 16 = u.toNat := by
  rw [opcodeOf_toNat, Bits.field_shiftRight v.isLt]

theorem opcodeOf_ofNat (h : w < 2 ^ 32) :
    (opcodeOf (BitVec.ofNat 16 <| w >>> 16) (BitVec.ofNat 16 w)).toNat = w := by
  have hu : w >>> 16 < 2 ^ 16 := by
    rw [Nat.shiftRight_eq_div_pow]
    omega
  rw [opcodeOf_toNat, BitVec.toNat_ofNat, BitVec.toNat_ofNat, Nat.mod_eq_of_lt hu]
  exact (Bits.eq_field_iff <| Nat.mod_lt _ <| by decide).mpr ⟨rfl, rfl⟩ |>.symm

-- The bytes of halfwords, as the function that decodes data puts them together.

theorem setWidth_append (d₁ d₀ : Byte) :
    (d₁ ++ d₀ : BitVec 16).setWidth 32 = d₁.setWidth 32 <<< 8 ||| d₀.setWidth 32 := by
  ext i hi
  simp [BitVec.getElem_shiftLeft, BitVec.getElem_setWidth]
  grind

theorem dataOpcode_two (d₀ d₁ : Byte) : dataOpcode [d₀, d₁] = some (opcodeOf (d₁ ++ d₀) 0) := by
  rw [opcodeOf, setWidth_append, BitVec.shiftLeft_or_distrib, ← BitVec.shiftLeft_add]
  simp [dataOpcode]

theorem dataOpcode_four (d₀ d₁ d₂ d₃ : Byte) (data : List Byte) :
    dataOpcode (d₀ :: d₁ :: d₂ :: d₃ :: data) = some (opcodeOf (d₁ ++ d₀) (d₃ ++ d₂)) := by
  rw [opcodeOf, setWidth_append, setWidth_append, BitVec.shiftLeft_or_distrib,
    ← BitVec.shiftLeft_add]
  simp [dataOpcode, BitVec.or_assoc]

end Words

namespace Bitfield

open Description

variable {ν : Type} [DecidableEq ν] {l : List (FieldElement ν)} {b : Bitfield ν} {i k w : Nat}

-- The fixed bits lie under the mask.
theorem make_constantMask (hb : make l = some b) :
    b.constantMask < 2 ^ b.bitlen ∧ b.constantValue &&& b.constantMask = b.constantValue := by
  have ⟨m, hm, hb⟩ := make_eq_some_iff.mp hb
  have ⟨m₁, hm₁, hlt, _, _⟩ := constants_located (l := l)
  have ⟨m₂, hm₂, hv⟩ := constants_and_mask (l := l)
  rw [hb]
  exact ⟨hm₁.staticmask hm ▸ hlt, hm₂.staticmask hm ▸ hv⟩

omit [DecidableEq ν] in
theorem mem_dofbits : i ∈ b.dofbits ↔ i < b.bitlen ∧ b.constantMask.testBit i = false := by
  have h : 1 <<< i &&& b.constantMask = 0 ↔ b.constantMask.testBit i = false := by
    rw [Nat.one_shiftLeft, Nat.and_comm, Nat.and_two_pow]
    cases b.constantMask.testBit i <;> simp
  simp [dofbits, h]

omit [DecidableEq ν] in
theorem dofbits_pairwise : b.dofbits.Pairwise (· > ·) :=
  (List.pairwise_reverse.mpr List.pairwise_lt_range).filter _

theorem map_sum_allCombinations (bits : List Nat) :
    (allCombinations bits).map List.sum = Bits.submasks bits := by
  induction bits
  case nil => rfl
  case cons bit bits hi =>
    simp only [allCombinations] at hi
    simp [allCombinations, product, Bits.submasks, ← hi, Function.comp_def]

omit [DecidableEq ν] in
-- The enumerated words.
theorem exists_add_mem_submasks (hm : b.constantMask < 2 ^ b.bitlen)
    (hv : b.constantValue &&& b.constantMask = b.constantValue) :
    (∃ x ∈ Bits.submasks b.dofbits, b.constantValue + x = w) ↔
    w < 2 ^ b.bitlen ∧ w &&& b.constantMask = b.constantValue := by
  rw [Bits.and_eq_iff_add hm hv]
  simp only [Bits.mem_submasks dofbits_pairwise, mem_dofbits]

omit [DecidableEq ν] in
theorem enumerateAll_eq (hk : k = 1 ∨ k = 2) (hl : b.bitlen = 16 * k) :
    b.enumerateAll = some ((Bits.submasks b.dofbits).map fun x =>
      halfwords k (b.constantValue + x)) := by
  have hbyte (n : Nat) : BitVec.ofNat 8 (n &&& 0xff) = BitVec.ofNat 8 n := by
    rw [BitVec.ofNat_and]
    exact BitVec.and_allOnes
  have hdiv (n j : Nat) : n >>> (8 + j) = n >>> j / 256 := by
    rw [Nat.add_comm, Nat.shiftRight_add, Nat.shiftRight_eq_div_pow _ 8]
  rw [← map_sum_allCombinations, List.map_map]
  cases hk
  case inl hk =>
    subst hk
    simp [enumerateAll, encodingByteoffsets, hl, halfwords, Bytes.ofNat, hbyte, hdiv _ 0,
      Function.comp_def]
  case inr hk =>
    subst hk
    simp [enumerateAll, encodingByteoffsets, hl, halfwords, Bytes.ofNat, hbyte, hdiv _ 0,
      hdiv _ 16, Function.comp_def]

end Bitfield

section Fetch

variable {as : Addrspace} {memory : HostMemory} {pc : Word} {k w : Nat} {v : BitVec 16}

-- A halfword of the data is what the processor reads.
theorem read16_of_placed {n : Nat} {bytes : List Byte}
    (h : Placed as memory pc (Bytes.ofNat 2 n ++ bytes)) :
    as.read16 memory pc = .ok (BitVec.ofNat 16 n) ∧ Placed as memory (pc + 2) bytes := by
  obtain ⟨⟨slice, hs, hm⟩, hp⟩ := h
  have hn : (BitVec.ofNat 32 <| Bytes.toNat [BitVec.ofNat 8 n, BitVec.ofNat 8 <| n / 256]).setWidth
      16 = BitVec.ofNat 16 n := by
    apply BitVec.eq_of_toNat_eq
    simp only [Bytes.toNat, BitVec.toNat_setWidth, BitVec.toNat_ofNat]
    omega
  rw [Addrspace.read16, Addrspace.readN, hs]
  simp only [show (2 : Word).toNat = 2 from rfl, hm]
  exact ⟨congrArg Except.ok hn, hp⟩

theorem insnWord_of_read16 {u : BitVec 16} (hu : as.read16 memory pc = .ok u)
    (hv : as.read16 memory (pc + 2) = .ok v) :
    addrspaceReadInsnWord as memory pc = .ok (opcodeOf u v) := by
  rw [addrspaceReadInsnWord, hu, hv]
  rfl

-- A word of one or of two halfwords is in the upper bits of the opcode.

theorem addrspaceReadInsnWord_of_placed (hk : k = 1 ∨ k = 2) (hw : w < 2 ^ (16 * k))
    (h : Placed as memory pc (halfwords k w)) (hv : as.read16 memory (pc + 2) = .ok v) :
    ∃ opcode, addrspaceReadInsnWord as memory pc = .ok opcode ∧
      opcode.toNat >>> (32 - 16 * k) = w := by
  cases hk
  case inl hk =>
    subst hk
    obtain ⟨hu, _⟩ := read16_of_placed h
    refine ⟨_, insnWord_of_read16 hu hv, opcodeOf_upper.trans ?_⟩
    exact Nat.mod_eq_of_lt hw
  case inr hk =>
    subst hk
    obtain ⟨hu, h⟩ := read16_of_placed h
    obtain ⟨hv, _⟩ := read16_of_placed h
    exact ⟨_, insnWord_of_read16 hu hv, opcodeOf_ofNat hw⟩

theorem dataOpcode_halfwords (hk : k = 1 ∨ k = 2) (hw : w < 2 ^ (16 * k)) :
    ∃ opcode, dataOpcode (halfwords k w) = some opcode ∧
      opcode.toNat >>> (32 - 16 * k) = w := by
  cases hk
  case inl hk =>
    subst hk
    refine ⟨_, dataOpcode_two _ _, opcodeOf_upper.trans ?_⟩
    rw [Nat.mul_zero, Nat.shiftRight_zero, append_ofNat]
    exact Nat.mod_eq_of_lt hw
  case inr hk =>
    subst hk
    refine ⟨_, dataOpcode_four _ _ _ _ [], ?_⟩
    rw [append_ofNat, append_ofNat]
    exact opcodeOf_ofNat hw

theorem halfwords_inj {w' : Nat} (hk : k = 1 ∨ k = 2) (hw : w < 2 ^ (16 * k))
    (hw' : w' < 2 ^ (16 * k)) (h : halfwords k w = halfwords k w') : w = w' := by
  obtain ⟨opcode, ho, hu⟩ := dataOpcode_halfwords hk hw
  obtain ⟨opcode', ho', hu'⟩ := dataOpcode_halfwords hk hw'
  rw [h, ho'] at ho
  cases ho
  exact hu.symm.trans hu'

end Fetch

-- The condition for the branch of an encoding in `decode_insn`.
def Bitfield.pattern {ν : Type} (b : Bitfield ν) : Pattern 32 :=
  ⟨BitVec.ofNat 32 (b.widen 32).constantmask, BitVec.ofNat 32 (b.widen 32).constantcmp⟩

-- An opcode has a word in its upper bits. It matches the encoding in the Python decoder and in
-- `decode_insn`, where its branch is taken if no branch in front of it is.
structure Bitfield.Reconstructs {ν : Type} (b : Bitfield ν) (w : Nat) (opcode : Word) : Prop where
  upper  : opcode.toNat >>> (32 - b.bitlen) = w
  python : opcode.toNat &&& (b.widen 32).constantmask = (b.widen 32).constantcmp
  branch : b.pattern.Matches opcode
  taken  : ∀ {l r o}, opcodes = l ++ o :: r → o.pattern = b.pattern →
    (∀ o' ∈ l, ¬o'.pattern.Matches opcode) → decode opcode = some o

namespace Bitfield

open Description

variable {ν : Type} [DecidableEq ν] {l : List (FieldElement ν)} {b : Bitfield ν} {w : Nat}

omit [DecidableEq ν] in
theorem reconstructs_of_upper {opcode : Word} (hu : opcode.toNat >>> (32 - b.bitlen) = w)
    (hw : w &&& b.constantMask = b.constantValue) :
    b.Reconstructs w opcode := by
  have hm : opcode.toNat &&& (b.widen 32).constantmask = (b.widen 32).constantcmp :=
    Bits.and_shiftLeft_iff.mpr <| hu ▸ hw
  have hp : b.pattern.Matches opcode := by
    rw [Pattern.Matches, pattern, ← hm, BitVec.ofNat_and, BitVec.ofNat_toNat, BitVec.setWidth_eq]
  refine ⟨hu, hm, hp, fun {l r o} hos ho hl => ?_⟩
  have hn : l.find? (fun o => decide (o.pattern.Matches opcode)) = none :=
    List.find?_eq_none.mpr fun o' ho' => by simpa using hl o' ho'
  have hd : decide (o.pattern.Matches opcode) = true :=
    decide_eq_true <| ho ▸ hp
  rw [decode, Pattern.firstMatch, hos, List.find?_append, hn, Option.none_or, List.find?_cons, hd]

-- The enumeration has the encodings of the words with the fixed bits of a description, and each of
-- them is taken apart again by the function that decodes data and by the processor.
theorem enumerateAll_exact (hb : make l = some b) (hl : b.bitlen = 16 ∨ b.bitlen = 32) :
    ∃ encodings, b.enumerateAll = some encodings ∧ encodings.Nodup ∧
      (∀ e, e ∈ encodings ↔ ∃ w < 2 ^ b.bitlen, w &&& b.constantMask = b.constantValue ∧
        halfwords (b.bitlen / 16) w = e) ∧
      ∀ w < 2 ^ b.bitlen, w &&& b.constantMask = b.constantValue →
        (∃ opcode, b.Reconstructs w opcode ∧
          ∀ insns, decodeData insns (halfwords (b.bitlen / 16) w) =
            some (decodeOpcode insns opcode)) ∧
        ∀ as memory pc v, Placed as memory pc (halfwords (b.bitlen / 16) w) →
          Addrspace.read16 as memory (pc + 2) = .ok v →
          ∃ opcode, addrspaceReadInsnWord as memory pc = .ok opcode ∧ b.Reconstructs w opcode := by
  obtain ⟨hm, hv⟩ := make_constantMask hb
  obtain ⟨k, hk, hl⟩ : ∃ k, (k = 1 ∨ k = 2) ∧ b.bitlen = 16 * k := by
    cases hl
    case inl hl => exact ⟨1, .inl rfl, hl⟩
    case inr hl => exact ⟨2, .inr rfl, hl⟩
  have hd : b.bitlen / 16 = k := by omega
  have hlt {x : Nat} (hx : x ∈ Bits.submasks b.dofbits) :
      b.constantValue + x < 2 ^ (16 * k) :=
    hl ▸ (exists_add_mem_submasks hm hv).mp ⟨x, hx, rfl⟩ |>.left
  rw [hd]
  refine ⟨_, enumerateAll_eq hk hl, ?_, fun e => ?_, fun w hw hwm => ⟨?_, ?_⟩⟩
  · refine List.Nodup.map_on (fun x hx y hy h => ?_) <|
      (Bits.submasks_pairwise dofbits_pairwise).imp Nat.ne_of_lt
    exact Nat.add_left_cancel <| halfwords_inj hk (hlt hx) (hlt hy) h
  · simp only [List.mem_map, ← and_assoc, ← exists_add_mem_submasks hm hv]
    constructor
    case mp =>
      rintro ⟨x, hx, he⟩
      exact ⟨_, ⟨x, hx, rfl⟩, he⟩
    case mpr =>
      rintro ⟨_, ⟨x, hx, rfl⟩, he⟩
      exact ⟨x, hx, he⟩
  · obtain ⟨opcode, ho, hu⟩ := dataOpcode_halfwords hk (hl ▸ hw)
    refine ⟨opcode, reconstructs_of_upper (hl ▸ hu) hwm, fun insns => ?_⟩
    rw [decodeData, ho, Option.map_some]
  · intro as memory pc v hp hv
    obtain ⟨opcode, ho, hu⟩ := addrspaceReadInsnWord_of_placed hk (hl ▸ hw) hp hv
    exact ⟨opcode, ho, reconstructs_of_upper (hl ▸ hu) hwm⟩

-- `nop.w`, `yield.w` and so on
theorem enumerateAll_exact_hint :
    ∃ b encodings opcode,
      make [.fixed 0xf3af#16, .fixed 0x80#8, .var Var.imm 8] = some b ∧
      b.enumerateAll = some encodings ∧ encodings.Nodup ∧ [0xaf, 0xf3, 0x01, 0x80] ∈ encodings ∧
      addrspaceReadInsnWord (smallMachine [0xaf, 0xf3, 0x01, 0x80]).addrSpace
        (smallMachine [0xaf, 0xf3, 0x01, 0x80]).memory 0 = .ok opcode ∧
      b.Reconstructs 0xf3af8001 opcode := by
  have ⟨encodings, he, hn, hm, hr⟩ := enumerateAll_exact
    (b := (make [.fixed 0xf3af#16, .fixed 0x80#8, .var Var.imm 8]).get rfl)
    (Option.some_get _).symm (.inr rfl)
  have ⟨_, hf⟩ := hr 0xf3af8001 (by decide) (by rfl)
  have ⟨opcode, ho, hb⟩ := hf (smallMachine [0xaf, 0xf3, 0x01, 0x80]).addrSpace
    (smallMachine [0xaf, 0xf3, 0x01, 0x80]).memory 0 0x8001 ⟨⟨_, rfl, rfl⟩, ⟨_, rfl, rfl⟩, trivial⟩
    rfl
  have hmem := (hm _).mpr ⟨0xf3af8001, by decide, by rfl, rfl⟩
  exact ⟨_, encodings, opcode, (Option.some_get _).symm, he, hn, hmem, ho, hb⟩

end Bitfield
