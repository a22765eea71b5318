import Thumb2Sim.Emulation.Theorems.Evaluation

open Program Emu

namespace Emulation

variable {U : Type} {s : InsnEmuCtx U} {Rd Rn : Fin 16} {lsb msb width : Byte} {i j : Nat}

-- `bfi_T1` reads the source again after it has cleared the destination.
def clearedSource (cpu : Cpu) (Rd Rn : Fin 16) (lsb msb : Byte) : Word :=
  let mask := ((1 : Word) <<< msb.toNat - 1) <<< lsb.toNat
  Function.update cpu.reg Rd (cpu.reg Rd &&& ~~~mask) Rn

def inserted (cpu : Cpu) (Rd Rn : Fin 16) (lsb msb : Byte) : Word :=
  let mask := (1 : Word) <<< msb.toNat - 1
  cpu.reg Rd &&& ~~~(mask <<< lsb.toNat) |||
    (clearedSource cpu Rd Rn lsb msb &&& mask) <<< lsb.toNat

def extracted (cpu : Cpu) (Rn : Fin 16) (lsb width : Byte) : Word :=
  cpu.reg Rn >>> lsb.toNat &&& ((1 : Word) <<< width.toNat - 1)

theorem i32BfiT1_eq (hl : lsb.toNat < 32) (hm : msb.toNat < 32) :
    i32BfiT1 (regNo Rd) (regNo Rn) lsb msb s =
      .ok ((), s.setReg Rd (inserted s.emuCtx.cpu Rd Rn lsb msb)) := by
  rw [i32BfiT1, bind_of_ok (checked_shl hm), bind_of_ok (checked_shl hl), bind_of_ok getReg_eq,
    bind_of_ok setReg_eq, bind_of_ok getReg_eq, bind_of_ok (checked_shl hl),
    bind_of_ok getReg_setReg, setReg_eq, InsnEmuCtx.setReg_setReg]
  rfl

theorem i32UbfxT1_eq (hl : lsb.toNat < 32) (hw : width.toNat < 32) :
    i32UbfxT1 (regNo Rd) (regNo Rn) lsb width s =
      .ok ((), s.setReg Rd (extracted s.emuCtx.cpu Rn lsb width)) := by
  rw [i32UbfxT1, bind_of_ok getReg_eq, bind_of_ok (checked_shr hl), bind_of_ok (checked_shl hw),
    setReg_eq]
  rfl

-- The bit `j` of the source, if it is below `msb`.
def sourceBit (cpu : Cpu) (Rd Rn : Fin 16) (lsb : Byte) (j : Nat) : Bool :=
  (cpu.reg Rn).getLsbD j && !(Rn = Rd && lsb.toNat ≤ j)

theorem sourceBit_of_ne {cpu : Cpu} (h : ¬(Rn = Rd ∧ lsb.toNat ≤ j)) :
    sourceBit cpu Rd Rn lsb j = (cpu.reg Rn).getLsbD j := by
  rw [sourceBit, ← Bool.decide_and, decide_eq_false h, Bool.not_false, Bool.and_true]

theorem sourceBit_of_eq {cpu : Cpu} (hr : Rn = Rd) (hj : lsb.toNat ≤ j) :
    sourceBit cpu Rd Rn lsb j = false := by
  rw [sourceBit, decide_eq_true hr, decide_eq_true hj, Bool.true_and, Bool.not_true, Bool.and_false]

theorem getLsbD_clearedSource {cpu : Cpu} (hm : msb.toNat < 32) (hj : j < msb.toNat) :
    (clearedSource cpu Rd Rn lsb msb).getLsbD j = sourceBit cpu Rd Rn lsb j := by
  rw [clearedSource, sourceBit, Function.update_apply]
  have hj' : j < 32 := by omega
  by_cases hr : Rn = Rd
  case pos =>
    rw [if_pos hr, BitVec.getLsbD_and, BitVec.getLsbD_not, BitVec.getLsbD_shiftLeft,
      Bits.getLsbD_lowMask hm]
    grind
  case neg => simp [hr]

theorem getLsbD_inserted {cpu : Cpu} (hm : msb.toNat < 32) (hi : i < 32) :
    (inserted cpu Rd Rn lsb msb).getLsbD i =
    if lsb.toNat ≤ i ∧ i < lsb.toNat + msb.toNat then
      sourceBit cpu Rd Rn lsb (i - lsb.toNat)
    else
      (cpu.reg Rd).getLsbD i := by
  rw [inserted, Bits.getLsbD_insert hm hi]
  refine ite_congr rfl (fun h => ?_) fun _ => rfl
  exact getLsbD_clearedSource hm <| by omega

theorem getLsbD_extracted {cpu : Cpu} (hw : width.toNat < 32) :
    (extracted cpu Rn lsb width).getLsbD i =
      (decide (i < width.toNat) && (cpu.reg Rn).getLsbD (lsb.toNat + i)) :=
  Bits.getLsbD_extract hw i

-- The ways to use the instructions for bit fields. The operand of `ubfx_T1` is the width minus one.
inductive BitFieldUse
  | insert (Rd Rn : Fin 16) (lsb msb : Byte)
  | insertExtract (Rd Rn Rt : Fin 16) (lsb msb : Byte)
  | extract (Rd Rn : Fin 16) (lsb width : Byte)

namespace BitFieldUse

def Valid : BitFieldUse → Prop
  | insert _ _ lsb msb | insertExtract _ _ _ lsb msb => lsb.toNat ≤ msb.toNat ∧ msb.toNat ≤ 31
  | extract _ _ lsb width                            => lsb.toNat + width.toNat ≤ 31

def handler : BitFieldUse → Emu U Unit
  | insert Rd Rn lsb msb           => i32BfiT1 (regNo Rd) (regNo Rn) lsb msb
  | extract Rd Rn lsb width        => i32UbfxT1 (regNo Rd) (regNo Rn) lsb width
  | insertExtract Rd Rn Rt lsb msb => do
    i32BfiT1 (regNo Rd) (regNo Rn) lsb msb
    i32UbfxT1 (regNo Rt) (regNo Rd) lsb (msb - lsb)

def dest : BitFieldUse → Fin 16
  | insert Rd _ _ _ | extract Rd _ _ _ => Rd
  | insertExtract _ _ Rt _ _           => Rt

-- The bit `i` that the destination is to have.
def resultBit (cpu : Cpu) (i : Nat) : BitFieldUse → Bool
  | insert Rd Rn lsb msb         =>
    if lsb.toNat ≤ i ∧ i ≤ msb.toNat then
      (cpu.reg Rn).getLsbD (i - lsb.toNat)
    else
      (cpu.reg Rd).getLsbD i
  | insertExtract _ Rn _ lsb msb => i ≤ msb.toNat - lsb.toNat && (cpu.reg Rn).getLsbD i
  | extract _ Rn lsb width       => i ≤ width.toNat && (cpu.reg Rn).getLsbD (lsb.toNat + i)

def IsExact (s : InsnEmuCtx U) (u : BitFieldUse) : Prop :=
  ∃ s', u.handler s = .ok ((), s') ∧
    ∀ i < 32, (s'.emuCtx.cpu.reg u.dest).getLsbD i = u.resultBit s.emuCtx.cpu i

-- What the registers have to be like for the handlers to get it right. `ubfx_T1` clears the highest
-- bit of the field. `bfi_T1` takes the number of the highest bit for the number of bits, and inserts
-- into the register that it reads from what is left of it then.
def Accurate (cpu : Cpu) : BitFieldUse → Prop
  | insert Rd Rn lsb msb         =>
    (lsb = 0 → (cpu.reg Rd).getLsbD msb.toNat = (cpu.reg Rn).getLsbD msb.toNat) ∧
    (∀ i < 32, msb.toNat < i → i < lsb.toNat + msb.toNat →
      (cpu.reg Rd).getLsbD i = sourceBit cpu Rd Rn lsb (i - lsb.toNat)) ∧
    (Rn = Rd → ∀ j < msb.toNat, lsb.toNat ≤ j → lsb.toNat + j ≤ msb.toNat →
      ¬(cpu.reg Rn).getLsbD j)
  | insertExtract Rd Rn _ lsb msb =>
    ¬(cpu.reg Rn).getLsbD (msb.toNat - lsb.toNat) ∧
    (Rn = Rd → ∀ j < msb.toNat - lsb.toNat, lsb.toNat ≤ j → ¬(cpu.reg Rn).getLsbD j)
  | extract _ Rn lsb width       => ¬(cpu.reg Rn).getLsbD (lsb.toNat + width.toNat)

theorem isExact_iff {u : BitFieldUse} {s' : InsnEmuCtx U} (h : u.handler s = .ok ((), s')) :
    u.IsExact s ↔
      ∀ i < 32, (s'.emuCtx.cpu.reg u.dest).getLsbD i = u.resultBit s.emuCtx.cpu i := by
  constructor
  case mp =>
    intro ⟨s'', hs, hr⟩
    cases h.symm.trans hs
    exact hr
  case mpr => exact fun hr => ⟨s', h, hr⟩

variable {cpu : Cpu} {Rt : Fin 16}

theorem accurate_of_bits (h : (insert Rd Rn lsb msb).Valid)
    (hb : ∀ i < 32, (inserted cpu Rd Rn lsb msb).getLsbD i =
      (insert Rd Rn lsb msb).resultBit cpu i) : (insert Rd Rn lsb msb).Accurate cpu := by
  obtain ⟨hl, hm⟩ : lsb.toNat ≤ msb.toNat ∧ msb.toNat ≤ 31 := h
  replace hb (i) (hi : i < 32) := getLsbD_inserted (by omega) hi |>.symm.trans (hb i hi)
  simp only [resultBit] at hb
  refine ⟨fun h₀ => ?_, fun i hi hmi hlm => ?_, fun hr j hj hlj hjm => ?_⟩
  case refine_1 =>
    have h := hb msb.toNat (by omega)
    subst h₀
    rwa [if_neg (by simp), if_pos (by simp)] at h
  case refine_2 =>
    have h := hb i hi
    rw [if_pos (by omega), if_neg (by omega)] at h
    exact h.symm
  case refine_3 =>
    have h := hb (lsb.toNat + j) (by omega)
    rw [if_pos (by omega), if_pos (by omega), Nat.add_sub_cancel_left, sourceBit_of_eq hr hlj] at h
    simp [← h]

theorem bits_of_accurate (h : (insert Rd Rn lsb msb).Valid)
    (ha : (insert Rd Rn lsb msb).Accurate cpu) (hi : i < 32) :
    (inserted cpu Rd Rn lsb msb).getLsbD i = (insert Rd Rn lsb msb).resultBit cpu i := by
  obtain ⟨hl, hm⟩ : lsb.toNat ≤ msb.toNat ∧ msb.toNat ≤ 31 := h
  obtain ⟨h₀, ha, hr⟩ := ha
  rw [getLsbD_inserted (by omega) hi, resultBit]
  by_cases hf : lsb.toNat ≤ i ∧ i < lsb.toNat + msb.toNat
  case neg =>
    rw [if_neg hf]
    by_cases hb : lsb.toNat ≤ i ∧ i ≤ msb.toNat
    case neg => rw [if_neg hb]
    case pos =>
      obtain ⟨h₁, rfl⟩ : lsb.toNat = 0 ∧ i = msb.toNat := by omega
      rw [if_pos hb, h₁, h₀ <| BitVec.eq_of_toNat_eq h₁, Nat.sub_zero]
  case pos =>
    rw [if_pos hf]
    by_cases hb : i ≤ msb.toNat
    case neg =>
      rw [if_neg (by omega)]
      exact (ha i hi (by omega) hf.right).symm
    case pos =>
      rw [if_pos ⟨hf.left, hb⟩]
      by_cases hs : Rn = Rd ∧ lsb.toNat ≤ i - lsb.toNat
      case neg => exact sourceBit_of_ne hs
      case pos =>
        have h := hr hs.left (i - lsb.toNat) (by omega) hs.right (by omega)
        rw [sourceBit_of_eq hs.left hs.right, Bool.eq_false_of_not_eq_true h]

theorem isExact_insert_iff (h : (insert Rd Rn lsb msb).Valid) :
    (insert Rd Rn lsb msb).IsExact s ↔ (insert Rd Rn lsb msb).Accurate s.emuCtx.cpu := by
  obtain ⟨hl, hm⟩ : lsb.toNat ≤ msb.toNat ∧ msb.toNat ≤ 31 := id h
  have he : (insert Rd Rn lsb msb).handler s = _ := i32BfiT1_eq (by omega) (by omega)
  rw [isExact_iff he, dest, InsnEmuCtx.setReg_reg, Function.update_self]
  exact ⟨accurate_of_bits h, fun ha _ hi => bits_of_accurate h ha hi⟩

theorem isExact_extract_iff (h : (extract Rd Rn lsb width).Valid) :
    (extract Rd Rn lsb width).IsExact s ↔ (extract Rd Rn lsb width).Accurate s.emuCtx.cpu := by
  have h : lsb.toNat + width.toNat ≤ 31 := h
  have he : (extract Rd Rn lsb width).handler s = _ := i32UbfxT1_eq (by omega) (by omega)
  have hw : width.toNat < 32 := by omega
  rw [isExact_iff he, dest, InsnEmuCtx.setReg_reg, Function.update_self, Accurate]
  simp only [getLsbD_extracted hw, resultBit]
  constructor
  case mp =>
    intro hb
    have hw := hb width.toNat (by omega)
    rw [decide_eq_false (Nat.lt_irrefl _), decide_eq_true (Nat.le_refl _), Bool.true_and] at hw
    exact Bool.eq_false_iff.mp hw.symm
  case mpr =>
    intro hn i hi
    obtain hw | rfl | hw := Nat.lt_trichotomy i width.toNat
    case inl       => simp [hw, hw.le]
    case inr.inl => simp [hn]
    case inr.inr => simp [hw.not_gt, hw.not_ge]

theorem getLsbD_extracted_inserted (h : (insertExtract Rd Rn Rt lsb msb).Valid) :
    (extracted (s.setReg Rd (inserted cpu Rd Rn lsb msb)).emuCtx.cpu Rd lsb (msb - lsb)).getLsbD i =
      (decide (i < msb.toNat - lsb.toNat) && sourceBit cpu Rd Rn lsb i) := by
  obtain ⟨hl, hm⟩ : lsb.toNat ≤ msb.toNat ∧ msb.toNat ≤ 31 := h
  have hw : (msb - lsb).toNat = msb.toNat - lsb.toNat := BitVec.toNat_sub_of_le hl
  rw [getLsbD_extracted (by omega), hw, InsnEmuCtx.setReg_reg, Function.update_self]
  by_cases hi : i < msb.toNat - lsb.toNat
  case neg => simp [hi]
  case pos =>
    rw [getLsbD_inserted (by omega) (by omega), if_pos (by omega), Nat.add_sub_cancel_left]

theorem isExact_insertExtract_iff (h : (insertExtract Rd Rn Rt lsb msb).Valid) :
    (insertExtract Rd Rn Rt lsb msb).IsExact s ↔
      (insertExtract Rd Rn Rt lsb msb).Accurate s.emuCtx.cpu := by
  obtain ⟨hl, hm⟩ : lsb.toNat ≤ msb.toNat ∧ msb.toNat ≤ 31 := id h
  have hw : (msb - lsb).toNat = msb.toNat - lsb.toNat := BitVec.toNat_sub_of_le hl
  have he : (insertExtract Rd Rn Rt lsb msb).handler s = _ :=
    (bind_of_ok <| i32BfiT1_eq (by omega) (by omega)).trans <| i32UbfxT1_eq (by omega) (by omega)
  rw [isExact_iff he, dest, InsnEmuCtx.setReg_reg, Function.update_self, Accurate]
  simp only [getLsbD_extracted_inserted h, resultBit]
  constructor
  case mp =>
    intro hb
    refine ⟨?_, fun hr j hj hlj => ?_⟩
    case refine_1 =>
      have h := hb (msb.toNat - lsb.toNat) (by omega)
      rw [decide_eq_false (Nat.lt_irrefl _), decide_eq_true (Nat.le_refl _), Bool.true_and] at h
      exact Bool.eq_false_iff.mp h.symm
    case refine_2 =>
      have h := hb j (by omega)
      rw [sourceBit_of_eq hr hlj, decide_eq_true hj.le, Bool.and_false, Bool.true_and] at h
      exact Bool.eq_false_iff.mp h.symm
  case mpr =>
    intro ⟨hn, hr⟩ i hi
    obtain hw | rfl | hw := Nat.lt_trichotomy i (msb.toNat - lsb.toNat)
    case inr.inl => simp [hn]
    case inr.inr => simp [hw.not_gt, hw.not_ge]
    case inl =>
      by_cases hs : Rn = Rd ∧ lsb.toNat ≤ i
      case neg => simp [sourceBit_of_ne hs, hw, hw.le]
      case pos => simp [sourceBit_of_eq hs.left hs.right, hr hs.left i hw hs.right]

-- The uses in which the bits of the field end up in the right places.
theorem isExact_iff_accurate (u : BitFieldUse) (h : u.Valid) :
    u.IsExact s ↔ u.Accurate s.emuCtx.cpu := by
  cases u
  case insert        => exact isExact_insert_iff h
  case insertExtract => exact isExact_insertExtract_iff h
  case extract       => exact isExact_extract_iff h

-- `ubfx r0, r1, #4, #8`
theorem isExact_iff_ubfx : (extract 0 1 4 7).IsExact (cpuWith [0, 0x120]) ↔
    (extract 0 1 4 7).Accurate (cpuWith [0, 0x120]).emuCtx.cpu :=
  isExact_iff_accurate (s := cpuWith [0, 0x120]) (extract 0 1 4 7) (show 4 + 7 ≤ 31 by decide)

theorem not_forall_isExact :
    ¬∀ (s : InsnEmuCtx Unit) (u : BitFieldUse), u.Valid → u.IsExact s := by
  intro h
  have hv : (extract 0 1 4 7).Valid := show 4 + 7 ≤ 31 by decide
  have ha := isExact_extract_iff hv |>.mp <| h (cpuWith [0, 0x800]) _ hv
  exact ha rfl

end BitFieldUse

end Emulation
