import Thumb2Sim.Cm4test.Ivt
import Thumb2Sim.Execution.Theorems.GuestProgram

open Emulation GuestInsn

namespace Ivt

variable {U : Type} {host : Callbacks U} {rs : List Region} {areas : List ByteMap.Area}
  {reg : Fin 16 → Word} {pc : Word} {m : ByteMap} {k n o : Nat}

-- A word of a range that does not reach behind the end of the address space.
theorem toNat_add_ofNat {a : Word} (h : a.toNat + 4 * n ≤ 2 ^ 32) (hk : k < n) :
    (a + BitVec.ofNat 32 (4 * k)).toNat = a.toNat + 4 * k := by
  rw [BitVec.toNat_add, BitVec.toNat_ofNat]
  omega

theorem effect_strReg {Rt Rn Rm : Fin 8} :
    (strReg Rt Rn Rm).effect areas (.of reg (pc + BitVec.ofNat 32 o) m) =
      .of reg (pc + BitVec.ofNat 32 (o + 2)) (m.write areas
        (reg (lowReg Rn) + reg (lowReg Rm)).toNat (Bytes.ofNat 4 (reg (lowReg Rt)).toNat)) := by
  rw [effect, Guest.of_reg, Guest.of_reg, Guest.of_reg]
  exact Guest.of_next

theorem effect_ldrReg {Rt Rn Rm : Fin 8} :
    (ldrReg Rt Rn Rm).effect areas (.of reg (pc + BitVec.ofNat 32 o) m) =
      .of (Function.update reg (lowReg Rt) <| BitVec.ofNat 32 <|
          m.read areas (reg (lowReg Rn) + reg (lowReg Rm)).toNat 4)
        (pc + BitVec.ofNat 32 (o + 2)) m := by
  rw [effect, Guest.of_reg, Guest.of_reg, Guest.of_setReg, Guest.of_next]
  rfl

-- A flash memory and a RAM of four words.
def smallRegions : List Region :=
  [⟨0x8000000, 0x100, ⟨0, 0⟩, true, false⟩, ⟨0x20000000, 16, ⟨1, 0⟩, false, false⟩]

def smallFlash (code : List GuestInsn) (literals : List Word) : ByteMap :=
  ByteMap.update (fun _ => some 0) 0x8000000 <|
    (assemble code).flatMap (fun hw => Bytes.ofNat 2 hw.toNat) ++ List.replicate 18 0 ++
      literals.flatMap fun v => Bytes.ofNat 4 v.toNat

theorem smallRegions_flash (address n : Nat) (h : 0x8000000 ≤ address ∧ address + n ≤ 0x8000100) :
    ∃ area ∈ smallRegions.map Region.area, area.Contains address n := by
  refine ⟨_, List.mem_cons_self, fun i hi => ?_⟩
  change 0x8000000 ≤ address + i ∧ address + i < 0x8000000 + 0x100
  omega

theorem smallRegions_ram (address n : Nat) (h : 0x20000000 ≤ address ∧ address + n ≤ 0x20000010) :
    ∃ area ∈ smallRegions.map Region.area, area.writable ∧ area.Contains address n := by
  refine ⟨_, List.mem_cons_of_mem _ List.mem_cons_self, rfl, fun i hi => ?_⟩
  change 0x20000000 ≤ address + i ∧ address + i < 0x20000000 + 16
  omega

-- The words behind the `k` first ones are filled.
def filled (m : ByteMap) (address n : Nat) (v : Word) (k : Nat) : ByteMap :=
  m.update (address + 4 * k) (List.replicate (n - k) <| Bytes.ofNat 4 v.toNat).flatten

theorem filled_self {address : Nat} {v : Word} : filled m address n v n = m := by
  rw [filled, Nat.sub_self]
  exact ByteMap.update_nil

theorem filled_length {v : Word} :
    (List.replicate n <| Bytes.ofNat 4 v.toNat).flatten.length = 4 * n := by
  simp [Nat.mul_comm]

theorem filled_eq {address : Nat} {v : Word} (hk : k < n) : filled m address n v k =
    (filled m address n v (k + 1)).update (address + 4 * k) (Bytes.ofNat 4 v.toNat) := by
  have hn : n - k = n - (k + 1) + 1 := by omega
  rw [filled, hn, List.replicate_succ, List.flatten_cons, ByteMap.update_append,
    Bytes.ofNat_length, Nat.add_assoc, ← Nat.mul_succ]
  rfl

-- `_asm_memset` fills the words of the range, wherever it is, and changes no other byte.
theorem asmMemset_leads (reg : Fin 16 → Word) {area : ByteMap.Area} (ha : area ∈ rs.map Region.area)
    (hw : area.writable) (hr : (reg 2).toNat / 4 = n)
    (ho : (reg 0).toNat + 4 * n ≤ 2 ^ 32) (hc : area.Contains (reg 0).toNat (4 * n))
    (hm : m.HoldsCode (rs.map Region.area) pc.toNat (assemble asmMemset))
    (hd : pc.toNat + 16 ≤ (reg 0).toNat ∨ (reg 0).toNat + 4 * n ≤ pc.toNat) :
    Leads (cpuSingleStep host) (Guest.Describes rs) (countdownSteps 1 n) (.of reg pc m)
      (.of (Function.update reg 2 0) (pc + 16) <| m.update (reg 0).toNat
        (List.replicate n <| Bytes.ofNat 4 (reg 1).toNat).flatten) := by
  have hcode : ∀ k ≤ n, (filled m (reg 0).toNat n (reg 1) k).HoldsCode
      (rs.map Region.area) pc.toNat (assemble <| countdown [.strReg 1 0 2]) := by
    intro k hk
    refine hm.update ?_
    rw [filled_length]
    change pc.toNat + 2 * 8 ≤ _ ∨ _
    omega
  have body : ∀ k < n, Leads (cpuSingleStep host) (Guest.Describes rs) 1
      (.of (Function.update reg 2 (BitVec.ofNat 32 (4 * k))) (pc + BitVec.ofNat 32 8) <|
        filled m (reg 0).toNat n (reg 1) (k + 1))
      (.of (Function.update reg 2 (BitVec.ofNat 32 (4 * k))) (pc + BitVec.ofNat 32 10) <|
        filled m (reg 0).toNat n (reg 1) k) := by
    intro k hk
    have ht := toNat_add_ofNat ho hk
    have hs : area.Contains ((reg 0).toNat + 4 * k) (Bytes.ofNat 4 (reg 1).toNat).length := by
      rw [Bytes.ofNat_length]
      exact hc.sub (by omega)
    have hx : filled m (reg 0).toNat n (reg 1) k = _ := filled_eq hk
    rw [← ByteMap.write_of_contains ha hw hs, ← ht] at hx
    refine leads_at (hcode (k + 1) (by omega)) 3 rfl rfl trivial ?_ ?_
    case refine_1 =>
      intro a h
      cases h
      change (reg 0 + BitVec.ofNat 32 (4 * k)).toNat + 4 ≤ 2 ^ 32
      omega
    case refine_2 =>
      rw [effect_strReg, hx]
      rfl
  have hl : Leads (cpuSingleStep host) (Guest.Describes rs) _ _ _ :=
    countdown_leads (R := fun _ => reg) (by decide) hr hcode body
  rwa [filled_self, filled, BitVec.add_zero] at hl

theorem smallFlash_asmMemset : (smallFlash asmMemset []).HoldsCode
    (smallRegions.map Region.area) 0x8000000 (assemble asmMemset) := by
  have ⟨_, ha, hc⟩ := smallRegions_flash 0x8000000 16 (by decide)
  exact .of_contains ha hc (by decide) (by decide +kernel)

theorem asmMemset_leads_three :
    Leads (cpuSingleStep (noHost (U := Unit))) (Guest.Describes smallRegions) 13
      (.of (fun r => [0x20000004, 0xdeadbeef, 15].getD r 0) 0x8000000 (smallFlash asmMemset []))
      (.of (Function.update (fun r => [0x20000004, 0xdeadbeef, 15].getD r 0) 2 0) 0x8000010 <|
        (smallFlash asmMemset []).update 0x20000004
          [0xef, 0xbe, 0xad, 0xde, 0xef, 0xbe, 0xad, 0xde, 0xef, 0xbe, 0xad, 0xde]) :=
  have ⟨_, ha, hw, hc⟩ := smallRegions_ram 0x20000004 12 (by decide)
  asmMemset_leads (fun r => [0x20000004, 0xdeadbeef, 15].getD r 0) ha hw rfl (by decide) hc
    smallFlash_asmMemset (by decide)

-- The words behind the `k` first ones are copied.
def copied (m : ByteMap) (dst src n k : Nat) : ByteMap :=
  m.update (dst + 4 * k) (m.bytes (src + 4 * k) (4 * (n - k)))

theorem copied_self {dst src : Nat} : copied m dst src n n = m := by
  rw [copied, Nat.sub_self]
  exact ByteMap.update_nil

theorem copied_eq {dst src : Nat} (hk : k < n) : copied m dst src n k =
    (copied m dst src n (k + 1)).update (dst + 4 * k) (m.bytes (src + 4 * k) 4) := by
  have hn : 4 * (n - k) = 4 + 4 * (n - (k + 1)) := by omega
  rw [copied, hn, ByteMap.bytes_add, ByteMap.update_append, ByteMap.bytes_length, Nat.add_assoc,
    Nat.add_assoc, ← Nat.mul_succ]
  rfl

-- What is still to be copied has not been overwritten, even if the destination is above the source
-- and overlaps it.
theorem copied_read {dst src : Nat} (hk : k < n) (hd : src ≤ dst ∨ dst + 4 * n ≤ src) :
    (copied m dst src n (k + 1)).read areas (src + 4 * k) 4 = m.read areas (src + 4 * k) 4 := by
  apply ByteMap.read_update_of_disjoint
  rw [ByteMap.bytes_length]
  omega

-- The word at an address, as `ldr` loads it.
noncomputable def wordAt (areas : List ByteMap.Area) (m : ByteMap) (address : Nat) : Word :=
  BitVec.ofNat 32 <| m.read areas address 4

theorem ofNat_wordAt {area : ByteMap.Area} {address : Nat} (ha : area ∈ areas)
    (hc : area.Contains address 4) :
    Bytes.ofNat 4 (wordAt areas m address).toNat = m.bytes address 4 := by
  have hl : m.read areas address 4 < 2 ^ 32 := ByteMap.read_lt
  have hb := Bytes.ofNat_toNat (m.bytes address 4)
  rw [ByteMap.bytes_length] at hb
  rw [wordAt, BitVec.toNat_ofNat, Nat.mod_eq_of_lt hl, ByteMap.read_of_contains ha hc, hb]

-- `_asm_memcpy` copies the words of a range to another one. The ranges may overlap if the
-- destination is above the source, as the last word is copied first.
theorem asmMemcpy_leads (reg : Fin 16 → Word) {area area' : ByteMap.Area}
    (ha : area ∈ rs.map Region.area) (hw : area.writable) (ha' : area' ∈ rs.map Region.area)
    (hr : (reg 2).toNat / 4 = n)
    (ho : (reg 0).toNat + 4 * n ≤ 2 ^ 32) (hc : area.Contains (reg 0).toNat (4 * n))
    (ho' : (reg 1).toNat + 4 * n ≤ 2 ^ 32) (hc' : area'.Contains (reg 1).toNat (4 * n))
    (hs' : (reg 1).toNat ≤ (reg 0).toNat ∨ (reg 0).toNat + 4 * n ≤ (reg 1).toNat)
    (hm : m.HoldsCode (rs.map Region.area) pc.toNat (assemble asmMemcpy))
    (hd : pc.toNat + 18 ≤ (reg 0).toNat ∨ (reg 0).toNat + 4 * n ≤ pc.toNat) :
    Leads (cpuSingleStep host) (Guest.Describes rs) (countdownSteps 2 n) (.of reg pc m)
      (.of (Function.update (Function.update reg 3 <| if n = 0 then reg 3 else
          wordAt (rs.map Region.area) m (reg 1).toNat) 2 0) (pc + 18) <|
        m.update (reg 0).toNat (m.bytes (reg 1).toNat (4 * n))) := by
  have hcode : ∀ k ≤ n, (copied m (reg 0).toNat (reg 1).toNat n k).HoldsCode
      (rs.map Region.area) pc.toNat
      (assemble <| countdown [.ldrReg 3 1 2, .strReg 3 0 2]) := by
    intro k hk
    refine hm.update ?_
    rw [ByteMap.bytes_length]
    change pc.toNat + 2 * 9 ≤ _ ∨ _
    omega
  -- The last word that has been loaded stays in `r3`.
  let loaded (k : Nat) : Word := if n = k then reg 3 else
    wordAt (rs.map Region.area) m ((reg 1).toNat + 4 * k)
  have body : ∀ k < n, Leads (cpuSingleStep host) (Guest.Describes rs) 2
      (.of (Function.update (Function.update reg 3 (loaded (k + 1))) 2 (BitVec.ofNat 32 (4 * k)))
        (pc + BitVec.ofNat 32 8) <|
        copied m (reg 0).toNat (reg 1).toNat n (k + 1))
      (.of (Function.update (Function.update reg 3 (loaded k)) 2 (BitVec.ofNat 32 (4 * k)))
        (pc + BitVec.ofNat 32 12) <| copied m (reg 0).toNat (reg 1).toNat n k) := by
    intro k hk
    have ht := toNat_add_ofNat ho hk
    have ht' := toNat_add_ofNat ho' hk
    have hk' : loaded k = wordAt (rs.map Region.area) m ((reg 1).toNat + 4 * k) :=
      if_neg hk.ne'
    have hu : Function.update (Function.update (Function.update reg 3 (loaded (k + 1))) 2
        (BitVec.ofNat 32 (4 * k))) 3 (loaded k) =
          Function.update (Function.update reg 3 (loaded k)) 2 (BitVec.ofNat 32 (4 * k)) := by
      rw [Function.update_comm (by decide), Function.update_idem]
    have hx : copied m (reg 0).toNat (reg 1).toNat n k = _ := copied_eq hk
    have hs : area.Contains ((reg 0).toNat + 4 * k) (Bytes.ofNat 4 (loaded k).toNat).length := by
      rw [Bytes.ofNat_length]
      exact hc.sub (by omega)
    rw [← ofNat_wordAt ha' (hc'.sub (by omega)), ← hk', ← ByteMap.write_of_contains ha hw hs,
      ← ht] at hx
    have hf := hcode (k + 1) (by omega)
    have hload : Leads (cpuSingleStep host) (Guest.Describes rs) 1
        (.of (Function.update (Function.update reg 3 (loaded (k + 1))) 2
          (BitVec.ofNat 32 (4 * k))) (pc + BitVec.ofNat 32 8) <|
            copied m (reg 0).toNat (reg 1).toNat n (k + 1))
        (.of (Function.update (Function.update reg 3 (loaded k)) 2 (BitVec.ofNat 32 (4 * k)))
          (pc + BitVec.ofNat 32 10) <|
            copied m (reg 0).toNat (reg 1).toNat n (k + 1)) := by
      refine leads_at hf 3 rfl rfl trivial ?_ ?_
      case refine_1 =>
        intro a h
        cases h
        change (reg 1 + BitVec.ofNat 32 (4 * k)).toNat + 4 ≤ 2 ^ 32
        omega
      case refine_2 =>
        rw [effect_ldrReg, ← hu, hk', wordAt, ← copied_read hk hs', ← ht']
        rfl
    refine hload.trans <| leads_at hf 4 rfl rfl trivial ?_ ?_
    case refine_1 =>
      intro a h
      cases h
      change (reg 0 + BitVec.ofNat 32 (4 * k)).toNat + 4 ≤ 2 ^ 32
      omega
    case refine_2 =>
      rw [effect_strReg, hx]
      rfl
  have hl : Leads (cpuSingleStep host) (Guest.Describes rs) _ _ _ :=
    countdown_leads (R := fun k => Function.update reg 3 (loaded k)) (by decide) hr hcode body
  have hn : loaded n = reg 3 := if_pos rfl
  rw [hn, Function.update_eq_self, copied_self, copied, BitVec.add_zero] at hl
  exact hl

-- The words of the RAM are moved up by one.
theorem asmMemcpy_leads_overlap :
    Leads (cpuSingleStep (noHost (U := Unit))) (Guest.Describes smallRegions) 16
      (.of (fun r => [0x20000004, 0x20000000, 12].getD r 0) 0x8000000
        ((smallFlash asmMemcpy []).update 0x20000000 [1, 0, 0, 0, 2, 0, 0, 0, 3, 0, 0, 0]))
      (.of (Function.update (Function.update (fun r => [0x20000004, 0x20000000, 12].getD r 0) 3 1)
          2 0) 0x8000012 <|
        ((smallFlash asmMemcpy []).update 0x20000000 [1, 0, 0, 0, 2, 0, 0, 0, 3, 0, 0, 0]).update
          0x20000004 [1, 0, 0, 0, 2, 0, 0, 0, 3, 0, 0, 0]) := by
  obtain ⟨_, hf, hcf⟩ := smallRegions_flash 0x8000000 18 (by decide)
  obtain ⟨area, ha, hw, hd⟩ := smallRegions_ram 0x20000004 12 (by decide)
  obtain ⟨area', ha', -, hs⟩ := smallRegions_ram 0x20000000 12 (by decide)
  have hcode : (smallFlash asmMemcpy []).HoldsCode (smallRegions.map Region.area) 0x8000000
      (assemble asmMemcpy) := .of_contains hf hcf (by decide) (by decide +kernel)
  have hl : wordAt (smallRegions.map Region.area) ((smallFlash asmMemcpy []).update 0x20000000
      [1, 0, 0, 0, 2, 0, 0, 0, 3, 0, 0, 0]) 0x20000000 = 1 := by
    rw [wordAt, ByteMap.read_of_contains ha' (hs.sub (i := 0) (k := 4) (by decide))]
    decide +kernel
  rw [← hl]
  exact asmMemcpy_leads (n := 3) (fun r => [0x20000004, 0x20000000, 12].getD r 0) ha hw ha' rfl
    (by decide) hd (by decide) hs (by decide) (hcode.update (by decide)) (by decide)

-- A literal of the pool behind the code.
theorem ldrLit_leads (reg : Fin 16 → Word) {is : List GuestInsn} {Rt : Fin 8} {imm : Byte}
    (hm : m.HoldsCode (rs.map Region.area) pc.toNat (assemble is)) (hp : 4 ∣ pc.toNat) (k : Nat)
    (hi : is[k]? = some (ldrLit Rt imm)) (hn : o = 2 * (assemble <| is.take k).length)
    (ho : pc.toNat + (4 * (o / 4) + 4 + 4 * imm.toNat) + 4 ≤ 2 ^ 32) :
    Leads (cpuSingleStep host) (Guest.Describes rs) 1 (.of reg (pc + BitVec.ofNat 32 o) m)
      (.of (Function.update reg (lowReg Rt) <| wordAt (rs.map Region.area) m <|
          pc.toNat + (4 * (o / 4) + 4 + 4 * imm.toNat))
        (pc + BitVec.ofNat 32 (o + 2)) m) := by
  have ha : ((pc + BitVec.ofNat 32 o &&& ~~~3) + 4 + 4 * imm.setWidth 32).toNat =
      pc.toNat + (4 * (o / 4) + 4 + 4 * imm.toNat) := by
    have hb : pc + BitVec.ofNat 32 o &&& ~~~3 = BitVec.ofNat 32 _ := and_not_three _
    have hi := imm.isLt
    simp only [hb, BitVec.toNat_add, BitVec.toNat_mul, BitVec.toNat_ofNat, BitVec.toNat_setWidth,
      BitVec.reduceToNat]
    omega
  refine leads_at hm k hi hn trivial ?_ ?_
  case refine_1 =>
    intro a h
    cases h
    rw [Guest.of_pc, ha]
    exact ho
  case refine_2 =>
    rw [effect, Guest.of_pc, Guest.of_setReg, Guest.of_next, Guest.load, ha]
    rfl

theorem effect_subReg {Rd Rn Rm : Fin 8} :
    (subReg Rd Rn Rm).effect areas (.of reg (pc + BitVec.ofNat 32 o) m) =
      .of (Function.update reg (lowReg Rd) <| reg (lowReg Rn) - reg (lowReg Rm))
        (pc + BitVec.ofNat 32 (o + 2)) m := by
  rw [effect, Guest.of_reg, Guest.of_reg, Guest.of_setReg, Guest.of_next]

theorem effect_movImm {Rd : Fin 8} {imm : Byte} :
    (movImm Rd imm).effect areas (.of reg (pc + BitVec.ofNat 32 o) m) =
      .of (Function.update reg (lowReg Rd) <| imm.setWidth 32)
        (pc + BitVec.ofNat 32 (o + 2)) m := by
  rw [effect, Guest.of_setReg, Guest.of_next]

-- The code is in the memory, and the literals are behind it.
structure Loaded (areas : List ByteMap.Area) (sym : Symbols) (pc : Word) (m : ByteMap) :
    Prop where
  aligned : 4 ∣ pc.toNat
  noWrap  : pc.toNat + 124 ≤ 2 ^ 32
  code    : m.HoldsCode areas pc.toNat (assemble resetHandler)
  pool    : ∀ k v, sym.pool[k]? = some v → wordAt areas m (pc.toNat + 92 + 4 * k) = v

namespace Loaded

variable {sym : Symbols}

theorem update {a : Nat} {bs : List Byte} (h : Loaded areas sym pc m)
    (hd : pc.toNat + 124 ≤ a ∨ a + bs.length ≤ pc.toNat) :
    Loaded areas sym pc (m.update a bs) where
  aligned := h.aligned
  noWrap  := h.noWrap
  code    := h.code.update <| by
    change pc.toNat + 2 * 37 ≤ _ ∨ _
    omega
  pool    := fun k v hk => by
    have ⟨hl, _⟩ := List.getElem?_eq_some_iff.mp hk
    have hl : k < 8 := hl
    rw [← h.pool k v hk, wordAt, wordAt, ByteMap.read_update_of_disjoint (by omega)]

theorem ldrLit {Rt : Fin 8} {imm : Byte} {v : Word} (h : Loaded (rs.map Region.area) sym pc m)
    (k j : Nat) (hi : resetHandler[k]? = some (GuestInsn.ldrLit Rt imm))
    (hn : o = 2 * (assemble <| resetHandler.take k).length) (hv : sym.pool[j]? = some v)
    (hj : 4 * (o / 4) + 4 + 4 * imm.toNat = 92 + 4 * j) :
    Leads (cpuSingleStep host) (Guest.Describes rs) 1 (.of reg (pc + BitVec.ofNat 32 o) m)
      (.of (Function.update reg (lowReg Rt) v) (pc + BitVec.ofNat 32 (o + 2)) m) := by
  have ⟨hl, _⟩ := List.getElem?_eq_some_iff.mp hv
  have hl : j < 8 := hl
  have hw := h.noWrap
  have hs : Leads (cpuSingleStep host) (Guest.Describes rs) 1 _ _ :=
    ldrLit_leads reg h.code h.aligned k hi hn (by omega)
  rwa [hj, ← Nat.add_assoc, h.pool j v hv] at hs

end Loaded

-- The placement of the sections: the RAM holds neither the code nor the initial values.
structure Linked (areas : List ByteMap.Area) (sym : Symbols) (pc : Word) : Prop where
  ram        : ∃ area ∈ areas, area.writable ∧
    area.Contains sym.sram.toNat (sym.eram.toNat - sym.sram.toNat)
  image      : ∃ area ∈ areas,
    area.Contains sym.sidata.toNat (4 * wordCount sym.sdata sym.edata)
  noWrap     : sym.sidata.toNat + 4 * wordCount sym.sdata sym.edata ≤ 2 ^ 32
  data       : sym.sram ≤ sym.sdata ∧ sym.sdata ≤ sym.edata ∧ sym.edata ≤ sym.eram
  bss        : sym.sram ≤ sym.sbss ∧ sym.sbss ≤ sym.ebss ∧ sym.ebss ≤ sym.eram
  codeApart  : pc.toNat + 124 ≤ sym.sram.toNat ∨ sym.eram.toNat ≤ pc.toNat
  imageApart : sym.sidata.toNat + 4 * wordCount sym.sdata sym.edata ≤ sym.sram.toNat ∨
    sym.eram.toNat ≤ sym.sidata.toNat

-- The registers that the macros take their arguments from.
def args (reg : Fin 16 → Word) (r₀ r₁ r₂ : Word) : Fin 16 → Word :=
  Function.update (Function.update (Function.update reg 0 r₀) 1 r₁) 2 r₂

theorem args_update {a b v w : Word} :
    Function.update (args reg a v b) 3 w = args (Function.update reg 3 w) a v b := by
  rw [args, args, Function.update_comm (show (2 : Fin 16) ≠ 3 by decide),
    Function.update_comm (show (1 : Fin 16) ≠ 3 by decide),
    Function.update_comm (show (0 : Fin 16) ≠ 3 by decide)]

theorem args_args {a b v a' b' v' : Word} : args (args reg a v b) a' v' b' = args reg a' v' b' := by
  funext r
  simp only [args, Function.update_apply]
  split_ifs <;> rfl

-- The word of the initial values that is copied last.
noncomputable def lastLoaded (areas : List ByteMap.Area) (sym : Symbols) (m : ByteMap) (v : Word) :
    Word :=
  if wordCount sym.sdata sym.edata = 0 then v else wordAt areas m sym.sidata.toNat

theorem toNat_sub_div {a b : Word} (h : a ≤ b) : (b - a).toNat / 4 = wordCount a b := by
  rw [wordCount, BitVec.toNat_sub_of_le h]

theorem four_mul_wordCount_le (a b : Word) : 4 * wordCount a b ≤ b.toNat - a.toNat :=
  Nat.mul_div_le ..

theorem fill_bytes_length (a b v : Word) :
    (List.replicate (wordCount a b) <| Bytes.ofNat 4 v.toNat).flatten.length =
      4 * wordCount a b :=
  filled_length

namespace Loaded

variable {sym : Symbols} {a b v : Word}

theorem toNat_add (h : Loaded areas sym pc m) (ho : o < 124) :
    (pc + BitVec.ofNat 32 o).toNat = pc.toNat + o := by
  have hn := h.noWrap
  rw [BitVec.toNat_add, BitVec.toNat_ofNat]
  omega

theorem memset_leads (h : Loaded (rs.map Region.area) sym pc m)
    (hl : Linked (rs.map Region.area) sym pc) (hab : sym.sram ≤ a ∧ a ≤ b ∧ b ≤ sym.eram)
    (ho : o + 16 < 124)
    (hc : m.HoldsCode (rs.map Region.area) (pc.toNat + o) (assemble asmMemset)) :
    Leads (cpuSingleStep host) (Guest.Describes rs) (countdownSteps 1 <| wordCount a b)
      (.of (args reg a v (b - a)) (pc + BitVec.ofNat 32 o) m)
      (.of (args reg a v 0) (pc + BitVec.ofNat 32 (o + 16)) (fill m a b v)) := by
  obtain ⟨ram, hr, hw, hram⟩ := hl.ram
  obtain ⟨ha, hb, he⟩ := hab
  have hd := hl.codeApart
  have hk := four_mul_wordCount_le a b
  have hx : sym.sram.toNat + (a.toNat - sym.sram.toNat) = a.toNat := Nat.add_sub_cancel' ha
  rw [BitVec.le_def] at ha hb he
  have hlt := b.isLt
  have hs := hram.sub (i := a.toNat - sym.sram.toNat) (k := 4 * wordCount a b) (by omega)
  rw [hx] at hs
  have ht := h.toNat_add (show o < 124 by omega)
  have hm : Leads (cpuSingleStep host) (Guest.Describes rs) _ _ _ :=
    asmMemset_leads (args reg a v (b - a)) hr hw (toNat_sub_div hb)
      (by change a.toNat + _ ≤ _; omega) hs (ht.symm ▸ hc)
      (by rw [ht]; change _ ≤ a.toNat ∨ a.toNat + _ ≤ _; omega)
  have hz : Function.update (args reg a v (b - a)) 2 0 = args reg a v 0 := Function.update_idem ..
  rw [hz, BitVec.add_assoc] at hm
  rw [BitVec.ofNat_add]
  exact hm

-- The subtraction behind the three registers have been loaded.
theorem size_leads (h : Loaded (rs.map Region.area) sym pc m) (k : Nat)
    (hi : resetHandler[k]? = some (.subReg 2 2 0))
    (hn : o = 2 * (assemble <| resetHandler.take k).length) :
    Leads (cpuSingleStep host) (Guest.Describes rs) 1
      (.of (args reg a v b) (pc + BitVec.ofNat 32 o) m)
      (.of (args reg a v (b - a)) (pc + BitVec.ofNat 32 (o + 2)) m) := by
  refine leads_at h.code k hi hn trivial (fun _ h => by cases h) ?_
  have hs : Function.update (args reg a v b) 2 (b - a) = args reg a v (b - a) :=
    Function.update_idem ..
  rw [effect_subReg, ← hs]
  rfl

theorem paint_leads (reg : Fin 16 → Word) (h : Loaded (rs.map Region.area) sym pc m)
    (hl : Linked (rs.map Region.area) sym pc) :
    Leads (cpuSingleStep host) (Guest.Describes rs)
      (4 + countdownSteps 1 (wordCount sym.sram sym.eram)) (.of reg (pc + BitVec.ofNat 32 0) m)
      (.of (args reg sym.sram 0xdeadbeef 0) (pc + BitVec.ofNat 32 24) <|
        fill m sym.sram sym.eram 0xdeadbeef) := by
  have ha : Leads (cpuSingleStep host) (Guest.Describes rs) 4
      (.of reg (pc + BitVec.ofNat 32 0) m)
      (.of (args reg sym.sram 0xdeadbeef (sym.eram - sym.sram)) (pc + BitVec.ofNat 32 8) m) :=
    h.ldrLit 0 0 rfl rfl rfl rfl |>.trans (h.ldrLit 1 1 rfl rfl rfl rfl)
      |>.trans (h.ldrLit 2 2 rfl rfl rfl rfl) |>.trans (h.size_leads 3 rfl rfl)
  have hc : m.HoldsCode (rs.map Region.area) pc.toNat
      (assemble <| resetHandler.take 4 ++ asmMemset ++ resetHandler.drop 11) := h.code
  have ⟨h₁, h₂, h₃⟩ := hl.data
  have hr : sym.sram ≤ sym.sram ∧ sym.sram ≤ sym.eram ∧ sym.eram ≤ sym.eram :=
    ⟨Nat.le_refl _, BitVec.le_trans h₁ <| BitVec.le_trans h₂ h₃, Nat.le_refl _⟩
  exact ha.trans <| h.memset_leads hl hr (by decide) hc.block

theorem bss_leads (reg : Fin 16 → Word) (h : Loaded (rs.map Region.area) sym pc m)
    (hl : Linked (rs.map Region.area) sym pc) :
    Leads (cpuSingleStep host) (Guest.Describes rs)
      (4 + countdownSteps 1 (wordCount sym.sbss sym.ebss)) (.of reg (pc + BitVec.ofNat 32 50) m)
      (.of (args reg sym.sbss 0 0) (pc + BitVec.ofNat 32 74) <| fill m sym.sbss sym.ebss 0) := by
  have hz : Leads (cpuSingleStep host) (Guest.Describes rs) 1
      (.of (Function.update reg 0 sym.sbss) (pc + BitVec.ofNat 32 52) m)
      (.of (Function.update (Function.update reg 0 sym.sbss) 1 0) (pc + BitVec.ofNat 32 54) m) :=
    leads_at h.code 24 rfl rfl trivial (fun _ h => by cases h) effect_movImm
  have ha : Leads (cpuSingleStep host) (Guest.Describes rs) 4
      (.of reg (pc + BitVec.ofNat 32 50) m)
      (.of (args reg sym.sbss 0 (sym.ebss - sym.sbss)) (pc + BitVec.ofNat 32 58) m) :=
    h.ldrLit 23 6 rfl rfl rfl rfl |>.trans hz |>.trans (h.ldrLit 25 7 rfl rfl rfl rfl)
      |>.trans (h.size_leads 26 rfl rfl)
  have hc : m.HoldsCode (rs.map Region.area) pc.toNat
      (assemble <| resetHandler.take 27 ++ asmMemset ++ []) := h.code
  exact ha.trans <| h.memset_leads hl hl.bss (by decide) hc.block

theorem data_leads (reg : Fin 16 → Word) (h : Loaded (rs.map Region.area) sym pc m)
    (hl : Linked (rs.map Region.area) sym pc) :
    Leads (cpuSingleStep host) (Guest.Describes rs)
      (4 + countdownSteps 2 (wordCount sym.sdata sym.edata)) (.of reg (pc + BitVec.ofNat 32 24) m)
      (.of (args (Function.update reg 3 <| lastLoaded (rs.map Region.area) sym m (reg 3)) sym.sdata
          sym.sidata 0) (pc + BitVec.ofNat 32 50) <|
        m.update sym.sdata.toNat <|
          m.bytes sym.sidata.toNat (4 * wordCount sym.sdata sym.edata)) := by
  have ha : Leads (cpuSingleStep host) (Guest.Describes rs) 4
      (.of reg (pc + BitVec.ofNat 32 24) m)
      (.of (args reg sym.sdata sym.sidata (sym.edata - sym.sdata)) (pc + BitVec.ofNat 32 32) m) :=
    h.ldrLit 11 3 rfl rfl rfl rfl |>.trans (h.ldrLit 12 4 rfl rfl rfl rfl)
      |>.trans (h.ldrLit 13 5 rfl rfl rfl rfl) |>.trans (h.size_leads 14 rfl rfl)
  have hc : m.HoldsCode (rs.map Region.area) pc.toNat
      (assemble <| resetHandler.take 15 ++ asmMemcpy ++ resetHandler.drop 23) := h.code
  obtain ⟨ram, hr, hw, hram⟩ := hl.ram
  obtain ⟨rom, hr', hrom⟩ := hl.image
  obtain ⟨h₁, h₂, h₃⟩ := hl.data
  have hd := hl.codeApart
  have hi := hl.imageApart
  have hn := hl.noWrap
  have hk := four_mul_wordCount_le sym.sdata sym.edata
  have hlt := sym.edata.isLt
  have ht := h.toNat_add (o := 32) (by decide)
  have hx : sym.sram.toNat + (sym.sdata.toNat - sym.sram.toNat) = sym.sdata.toNat :=
    Nat.add_sub_cancel' h₁
  have hz (w : Word) : Function.update (Function.update
      (args reg sym.sdata sym.sidata (sym.edata - sym.sdata)) 3 w) 2 0 =
        args (Function.update reg 3 w) sym.sdata sym.sidata 0 := by
    rw [args_update]
    exact Function.update_idem ..
  rw [BitVec.le_def] at h₁ h₂ h₃
  have hs := hram.sub (i := sym.sdata.toNat - sym.sram.toNat)
    (k := 4 * wordCount sym.sdata sym.edata) (by omega)
  rw [hx] at hs
  have hm : Leads (cpuSingleStep host) (Guest.Describes rs) _ _ _ :=
    asmMemcpy_leads (args reg sym.sdata sym.sidata (sym.edata - sym.sdata)) hr hw hr'
      (toNat_sub_div h₂) (by change sym.sdata.toNat + _ ≤ _; omega) hs hn hrom
      (by change sym.sidata.toNat ≤ sym.sdata.toNat ∨ sym.sdata.toNat + _ ≤ sym.sidata.toNat; omega)
      (ht.symm ▸ hc.block)
      (by rw [ht]; change _ ≤ sym.sdata.toNat ∨ sym.sdata.toNat + _ ≤ _; omega)
  rw [hz, BitVec.add_assoc] at hm
  exact ha.trans hm

theorem fill (h : Loaded areas sym pc m) (hl : Linked areas sym pc)
    (hab : sym.sram ≤ a ∧ a ≤ b ∧ b ≤ sym.eram) : Loaded areas sym pc (Ivt.fill m a b v) := by
  have hk := four_mul_wordCount_le a b
  have hd := hl.codeApart
  simp only [BitVec.le_def] at hab
  apply h.update
  rw [fill_bytes_length]
  omega

end Loaded

def startupSteps (sym : Symbols) : Nat :=
  (4 + countdownSteps 1 (wordCount sym.sram sym.eram)) +
    (4 + countdownSteps 2 (wordCount sym.sdata sym.edata)) +
    (4 + countdownSteps 1 (wordCount sym.sbss sym.ebss))

-- The code of `Reset_Handler` paints the RAM, initialises the section `.data` and clears the section
-- `.bss`. Neither another byte nor any register but the first four is changed.
theorem resetHandler_leads {sym : Symbols} (reg : Fin 16 → Word)
    (h : Loaded (rs.map Region.area) sym pc m) (hl : Linked (rs.map Region.area) sym pc) :
    Leads (cpuSingleStep host) (Guest.Describes rs) (startupSteps sym) (.of reg pc m)
      (.of (args (Function.update reg 3 <| lastLoaded (rs.map Region.area) sym m (reg 3)) sym.sbss
        0 0) (pc + 74) (startup sym m)) := by
  obtain ⟨h₁, h₂, h₃⟩ := hl.data
  have hr : sym.sram ≤ sym.sram ∧ sym.sram ≤ sym.eram ∧ sym.eram ≤ sym.eram :=
    ⟨Nat.le_refl _, BitVec.le_trans h₁ <| BitVec.le_trans h₂ h₃, Nat.le_refl _⟩
  have hp := h.fill hl hr (v := 0xdeadbeef)
  have hk := four_mul_wordCount_le sym.sram sym.eram
  have hk' := four_mul_wordCount_le sym.sdata sym.edata
  have hd := hl.codeApart
  have hi := hl.imageApart
  rw [BitVec.le_def] at h₁ h₂ h₃
  have himage : (fill m sym.sram sym.eram 0xdeadbeef).bytes sym.sidata.toNat
      (4 * wordCount sym.sdata sym.edata) =
        m.bytes sym.sidata.toNat (4 * wordCount sym.sdata sym.edata) := by
    apply ByteMap.bytes_update_of_disjoint
    rw [fill_bytes_length]
    omega
  have hlast : lastLoaded (rs.map Region.area) sym (fill m sym.sram sym.eram 0xdeadbeef) (reg 3) =
      lastLoaded (rs.map Region.area) sym m (reg 3) := by
    unfold lastLoaded wordAt
    split
    case isTrue  => rfl
    case isFalse =>
      have hr : (fill m sym.sram sym.eram 0xdeadbeef).read (rs.map Region.area) sym.sidata.toNat 4 =
          m.read (rs.map Region.area) sym.sidata.toNat 4 := by
        apply ByteMap.read_update_of_disjoint
        rw [fill_bytes_length]
        omega
      rw [hr]
  have hd' : Loaded (rs.map Region.area) sym pc <|
      (fill m sym.sram sym.eram 0xdeadbeef).update sym.sdata.toNat <|
        m.bytes sym.sidata.toNat (4 * wordCount sym.sdata sym.edata) := by
    apply hp.update
    rw [ByteMap.bytes_length]
    omega
  have hpaint : Leads (cpuSingleStep host) _ _ _ _ := h.paint_leads reg hl
  have hdata : Leads (cpuSingleStep host) _ _ _ _ :=
    hp.data_leads (args reg sym.sram 0xdeadbeef 0) hl
  have hreg : args reg sym.sram 0xdeadbeef 0 3 = reg 3 := rfl
  rw [himage, hreg, hlast] at hdata
  have hbss : Leads (cpuSingleStep host) _ _ _ _ := hd'.bss_leads
    (args (Function.update (args reg sym.sram 0xdeadbeef 0) 3 <|
      lastLoaded (rs.map Region.area) sym m (reg 3)) sym.sdata sym.sidata 0) hl
  have hargs (w : Word) : args (args (Function.update (args reg sym.sram 0xdeadbeef 0) 3 w)
      sym.sdata sym.sidata 0) sym.sbss 0 0 = args (Function.update reg 3 w) sym.sbss 0 0 := by
    rw [args_args, args_update, args_args]
  rw [hargs] at hbss
  have hs := hpaint.trans hdata |>.trans hbss
  rwa [BitVec.add_zero] at hs

def smallSymbols : Symbols where
  sram   := 0x20000000
  eram   := 0x20000010
  sdata  := 0x20000000
  sidata := 0x8000080
  edata  := 0x20000004
  sbss   := 0x20000004
  ebss   := 0x2000000c

theorem smallSymbols_linked :
    Linked (smallRegions.map Region.area) smallSymbols 0x8000000 where
  ram        := smallRegions_ram _ _ (by decide)
  image      := smallRegions_flash _ _ (by decide)
  noWrap     := by decide
  data       := by decide
  bss        := by decide
  codeApart  := by decide
  imageApart := by decide

theorem smallFlash_pool : ∀ k : Fin smallSymbols.pool.length, BitVec.ofNat 32 (Bytes.toNat <|
    (smallFlash resetHandler smallSymbols.pool).bytes (0x800005c + 4 * k) 4) =
      smallSymbols.pool[k] := by
  decide +kernel

theorem smallFlash_loaded : Loaded (smallRegions.map Region.area) smallSymbols 0x8000000
    (smallFlash resetHandler smallSymbols.pool) where
  aligned := by decide
  noWrap  := by decide
  code    := by
    have ⟨_, ha, hc⟩ := smallRegions_flash 0x8000000 74 (by decide)
    exact .of_contains ha hc (by decide) (by decide +kernel)
  pool    := fun k v hk => by
    have ⟨hl, hk⟩ := List.getElem?_eq_some_iff.mp hk
    have ⟨_, ha, hc⟩ := smallRegions_flash (0x800005c + 4 * k) 4 <| by
      change k < 8 at hl
      omega
    rw [wordAt, ← hk]
    change BitVec.ofNat 32 (ByteMap.read _ _ (0x800005c + 4 * k) 4) = _
    rw [ByteMap.read_of_contains ha hc]
    exact smallFlash_pool ⟨k, hl⟩

theorem resetHandler_leads_small :
    Leads (cpuSingleStep (noHost (U := Unit))) (Guest.Describes smallRegions) 44
      (.of (fun _ => 0) 0x8000000 (smallFlash resetHandler smallSymbols.pool))
      (.of (args (Function.update (fun _ => 0) 3 <| lastLoaded (smallRegions.map Region.area)
          smallSymbols (smallFlash resetHandler smallSymbols.pool) 0) 0x20000004 0 0) 0x800004a <|
        startup smallSymbols (smallFlash resetHandler smallSymbols.pool)) :=
  resetHandler_leads _ smallFlash_loaded smallSymbols_linked

end Ivt
