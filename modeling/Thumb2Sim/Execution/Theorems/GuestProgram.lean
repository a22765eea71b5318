import Thumb2Sim.Execution.Theorems.Guest

open Emulation

variable {areas : List ByteMap.Area} {m : ByteMap} {address : Nat}

theorem assemble_append (is is' : List GuestInsn) :
    assemble (is ++ is') = assemble is ++ assemble is' :=
  List.flatMap_append

theorem assemble_cons (i : GuestInsn) (is : List GuestInsn) :
    assemble (i :: is) = i.halfwords ++ assemble is :=
  rfl

namespace ByteMap.HoldsCode

variable {code code' : List (BitVec 16)} {g : Guest} {i : GuestInsn} {is is' : List GuestInsn}
  {bs : List Byte} {a : Nat}

theorem left (h : m.HoldsCode areas address (code ++ code')) : m.HoldsCode areas address code where
  noWrap   := by
    have := h.noWrap
    simp only [List.length_append] at this
    omega
  halfword := fun k hw hk => h.halfword k hw <| by
    have ⟨hl, _⟩ := List.getElem?_eq_some_iff.mp hk
    rwa [List.getElem?_append_left hl]

theorem right (h : m.HoldsCode areas address (code ++ code')) :
    m.HoldsCode areas (address + 2 * code.length) code' where
  noWrap   := by
    have := h.noWrap
    simp only [List.length_append] at this
    omega
  halfword := fun k hw hk => by
    have hh := h.halfword (code.length + k) hw <| by
      rwa [List.getElem?_append_right (Nat.le_add_right ..), Nat.add_sub_cancel_left]
    rwa [Nat.mul_add, ← Nat.add_assoc] at hh

theorem of_contains {area : ByteMap.Area} (ha : area ∈ areas)
    (hc : area.Contains address (2 * code.length)) (hn : address + 2 * code.length + 2 ≤ 2 ^ 32)
    (h : ∀ k : Fin code.length,
      BitVec.ofNat 16 (Bytes.toNat (m.bytes (address + 2 * k) 2)) = code[k]) :
    m.HoldsCode areas address code where
  noWrap   := hn
  halfword := fun k hw hk => by
    have ⟨hl, hk⟩ := List.getElem?_eq_some_iff.mp hk
    rw [ByteMap.read_of_contains ha (hc.sub (by omega)), ← hk]
    exact h ⟨k, hl⟩

theorem block {is'' : List GuestInsn}
    (h : m.HoldsCode areas address (assemble (is ++ is' ++ is''))) :
    m.HoldsCode areas (address + 2 * (assemble is).length) (assemble is') := by
  rw [assemble_append, assemble_append] at h
  exact h.left.right

-- What is written elsewhere does not matter.
theorem update (h : m.HoldsCode areas address code)
    (hd : address + 2 * code.length ≤ a ∨ a + bs.length ≤ address) :
    (m.update a bs).HoldsCode areas address code where
  noWrap   := h.noWrap
  halfword := fun k hw hk => by
    have ⟨hl, _⟩ := List.getElem?_eq_some_iff.mp hk
    rw [ByteMap.read_update_of_disjoint (by omega)]
    exact h.halfword k hw hk

-- The instruction behind the first ones is fetched when PC has got there.
theorem fetches (h : g.bytes.HoldsCode areas address (assemble (is ++ i :: is')))
    (hp : g.pc.toNat = address + 2 * (assemble is).length) : g.Fetches areas i := by
  rw [assemble_append, assemble_cons] at h
  have hr := h.right
  rw [← hp] at hr
  have hi : i.halfwords.length = 1 + i.lower.toList.length := by
    rw [GuestInsn.halfwords, List.length_cons, Nat.add_comm]
  have hn := hr.noWrap
  rw [List.length_append, hi] at hn
  refine ⟨by omega, hr.halfword 0 _ rfl, fun l hl => ?_⟩
  have hw := hr.halfword 1 l (by rw [GuestInsn.halfwords, Option.mem_def.mp hl]; rfl)
  have hp' : (g.pc + 2).toNat = g.pc.toNat + 2 := by
    simp only [BitVec.toNat_add, BitVec.reduceToNat]
    omega
  rw [Guest.halfword, hp']
  exact hw

end ByteMap.HoldsCode

namespace Guest

variable {reg : Fin 16 → Word} {pc : Word} {r : Fin 8} {s : Fin 16} {v : Word} {g : Guest}

-- The state with the registers `reg`, but with another PC.
def of (reg : Fin 16 → Word) (pc : Word) (m : ByteMap) : Guest where
  reg   := Function.update reg 15 pc
  bytes := m

@[simp]
theorem of_pc : (of reg pc m).pc = pc := by
  change Function.update reg 15 pc 15 = pc
  exact Function.update_self ..

@[simp]
theorem of_bytes : (of reg pc m).bytes = m :=
  rfl

theorem lowReg_ne_pc : lowReg r ≠ 15 := by
  revert r
  decide

@[simp]
theorem of_reg : (of reg pc m).reg (lowReg r) = reg (lowReg r) :=
  Function.update_of_ne lowReg_ne_pc ..

@[simp]
theorem of_setReg :
    (of reg pc m).setReg (lowReg r) v = of (Function.update reg (lowReg r) v) pc m := by
  rw [setReg, of, of, Function.update_comm lowReg_ne_pc]

-- The address of an instruction is given by its distance from another one.

@[simp]
theorem of_next {n k : Nat} : (of reg (pc + BitVec.ofNat 32 n) m).next k =
    of reg (pc + BitVec.ofNat 32 (n + k)) m := by
  rw [next, of_pc, setReg, of, of, Function.update_idem, BitVec.add_assoc, ← BitVec.ofNat_add]

theorem of_branch {offset : Int} {n k : Nat} (h : (k : Int) = n + 4 + offset) :
    (of reg (pc + BitVec.ofNat 32 n) m).branch offset = of reg (pc + BitVec.ofNat 32 k) m := by
  have hk : BitVec.ofNat 32 k = BitVec.ofNat 32 n + 4 + BitVec.ofInt 32 offset := by
    rw [← BitVec.ofInt_natCast, h, BitVec.ofInt_add, BitVec.ofInt_add, BitVec.ofInt_natCast]
    rfl
  rw [branch, of_pc, setReg, of, of, Function.update_idem, hk, BitVec.add_assoc, BitVec.add_assoc,
    BitVec.add_assoc]

end Guest

-- The code counts `r2` down by words, and stops behind the word zero.
def countdown (body : List GuestInsn) : List GuestInsn :=
  let len := 2 * (assemble body).length
  [.bicsImm 2 2 3, .cbz 2 (len + 6), .subImm 2 4] ++ body ++
    [.cbz 2 2, .subImm 2 4, .b (-(len + 8 : Nat))]

def countdownSteps (bodySteps : Nat) : Nat → Nat
  | 0     => 2
  | n + 1 => 3 + (n * (bodySteps + 3) + (bodySteps + 1))

section

variable {U : Type} {host : Callbacks U} {rs : List Region} {reg : Fin 16 → Word} {pc v : Word}
  {i : GuestInsn} {is' : List GuestInsn} {g : Guest} {n : Nat}

-- The instruction behind the first ones.
theorem leads_of (is : List GuestInsn)
    (h : m.HoldsCode (rs.map Region.area) pc.toNat (assemble (is ++ i :: is')))
    (hn : n = 2 * (assemble is).length) (he : i.Encodable)
    (ho : i.NoOverflow <| .of reg (pc + BitVec.ofNat 32 n) m)
    (hg : i.effect (rs.map Region.area) (.of reg (pc + BitVec.ofNat 32 n) m) = g) :
    Leads (cpuSingleStep host) (Guest.Describes rs) 1 (.of reg (pc + BitVec.ofNat 32 n) m) g := by
  rw [← hg]
  refine GuestInsn.leads (ByteMap.HoldsCode.fetches h ?_) he ho
  have hw := h.noWrap
  rw [assemble_append, List.length_append] at hw
  rw [Guest.of_pc, BitVec.toNat_add, BitVec.toNat_ofNat, hn]
  omega

theorem leads_at {is : List GuestInsn}
    (h : m.HoldsCode (rs.map Region.area) pc.toNat (assemble is)) (k : Nat) (hi : is[k]? = some i)
    (hn : n = 2 * (assemble <| is.take k).length) (he : i.Encodable)
    (ho : i.NoOverflow <| .of reg (pc + BitVec.ofNat 32 n) m)
    (hg : i.effect (rs.map Region.area) (.of reg (pc + BitVec.ofNat 32 n) m) = g) :
    Leads (cpuSingleStep host) (Guest.Describes rs) 1 (.of reg (pc + BitVec.ofNat 32 n) m) g := by
  have ⟨hk, hi⟩ := List.getElem?_eq_some_iff.mp hi
  rw [← List.take_append_drop k is, List.drop_eq_getElem_cons hk, hi] at h
  exact leads_of _ h hn he ho hg

-- Rounding down to words.
theorem and_not_three (v : Word) :
    v &&& ~~~(3 : Byte).setWidth 32 = BitVec.ofNat 32 (4 * (v.toNat / 4)) := by
  apply BitVec.eq_of_toNat_eq
  have hs : (3 : Byte).setWidth 32 = 3#32 := rfl
  have ha := congrArg BitVec.toNat <| Bits.and_not_add_and v 3#32
  have hm : (v &&& 3#32).toNat = v.toNat % 4 := by
    rw [BitVec.toNat_and]
    exact Nat.and_two_pow_sub_one_eq_mod v.toNat 2
  have hl : (v &&& ~~~3#32).toNat ≤ v.toNat := by
    rw [BitVec.toNat_and]
    exact Nat.and_le_left
  rw [BitVec.toNat_add, hm] at ha
  rw [hs, BitVec.toNat_ofNat]
  omega

theorem ofNat_four_eq_zero_iff (h : 4 * n < 2 ^ 32) : BitVec.ofNat 32 (4 * n) = 0 ↔ n = 0 := by
  rw [← BitVec.toNat_inj, BitVec.toNat_ofNat]
  change _ = 0 ↔ _
  omega

theorem ofNat_four_succ_sub (n : Nat) :
    BitVec.ofNat 32 (4 * (n + 1)) - (4 : Byte).setWidth 32 = BitVec.ofNat 32 (4 * n) := by
  rw [Nat.mul_succ, BitVec.ofNat_add]
  exact BitVec.add_sub_cancel ..

variable {body : List GuestInsn} {c : Nat} {R : Nat → Fin 16 → Word} {M : Nat → ByteMap}

theorem effect_cbz {k : Nat} {offset : Int} (h : (k : Int) = n + 4 + offset) :
    (GuestInsn.cbz 2 offset).effect areas (.of reg (pc + BitVec.ofNat 32 n) m) =
      .of reg (pc + BitVec.ofNat 32 (if reg 2 = 0 then k else n + 2)) m := by
  have hr : (Guest.of reg (pc + BitVec.ofNat 32 n) m).reg (lowReg 2) = reg 2 := Guest.of_reg
  rw [GuestInsn.effect, hr]
  split
  case isTrue  => exact Guest.of_branch h
  case isFalse => exact Guest.of_next

theorem effect_subImm {k : Nat} (h : reg 2 = BitVec.ofNat 32 (4 * (k + 1))) :
    (GuestInsn.subImm 2 4).effect areas (.of reg (pc + BitVec.ofNat 32 n) m) =
      .of (Function.update reg 2 (BitVec.ofNat 32 (4 * k))) (pc + BitVec.ofNat 32 (n + 2)) m := by
  have hr : (Guest.of reg (pc + BitVec.ofNat 32 n) m).reg (lowReg 2) = reg 2 := Guest.of_reg
  rw [GuestInsn.effect, hr, h, ofNat_four_succ_sub, Guest.of_setReg, Guest.of_next]
  rfl

section

variable (reg) (hc : m.HoldsCode (rs.map Region.area) pc.toNat (assemble <| countdown body))

-- The instructions around the body.

include hc in
theorem countdown_bics : Leads (cpuSingleStep host) (Guest.Describes rs) 1
    (.of reg (pc + BitVec.ofNat 32 0) m)
    (.of (Function.update reg 2 (BitVec.ofNat 32 (4 * ((reg 2).toNat / 4))))
      (pc + BitVec.ofNat 32 4) m) := by
  refine leads_of [] hc rfl trivial (fun _ h => by cases h) ?_
  have hr : (Guest.of reg (pc + BitVec.ofNat 32 0) m).reg (lowReg 2) = reg 2 := Guest.of_reg
  rw [GuestInsn.effect, hr, and_not_three, Guest.of_setReg, Guest.of_next]
  rfl

include hc in
theorem countdown_cbz (hl : (assemble body).length ≤ 60) :
    Leads (cpuSingleStep host) (Guest.Describes rs) 1 (.of reg (pc + BitVec.ofNat 32 4) m)
      (.of reg (pc + BitVec.ofNat 32 (if reg 2 = 0 then 14 + 2 * (assemble body).length else 6))
        m) := by
  refine leads_of [.bicsImm 2 2 3] hc rfl ⟨by omega, ?_⟩ (fun _ h => by cases h)
    (effect_cbz <| by omega)
  change 0 ≤ _ ∧ _ < (2 : Int) * 2 ^ 6
  omega

include hc in
theorem countdown_subImm {k : Nat} (h : reg 2 = BitVec.ofNat 32 (4 * (k + 1))) :
    Leads (cpuSingleStep host) (Guest.Describes rs) 1 (.of reg (pc + BitVec.ofNat 32 6) m)
      (.of (Function.update reg 2 (BitVec.ofNat 32 (4 * k))) (pc + BitVec.ofNat 32 8) m) :=
  leads_of [.bicsImm 2 2 3, .cbz 2 _] hc rfl trivial (fun _ h => by cases h)
    (effect_subImm h)

include hc in
theorem countdown_test : Leads (cpuSingleStep host) (Guest.Describes rs) 1
    (.of reg (pc + BitVec.ofNat 32 (8 + 2 * (assemble body).length)) m)
    (.of reg (pc + BitVec.ofNat 32
      (if reg 2 = 0 then 14 + 2 * (assemble body).length else 10 + 2 * (assemble body).length))
      m) := by
  refine leads_of ([.bicsImm 2 2 3, .cbz 2 _, .subImm 2 4] ++ body) hc ?_ (by decide)
    (fun _ h => by cases h) ?_
  · rw [assemble_append, List.length_append, Nat.mul_add]
    rfl
  · rw [effect_cbz (k := 14 + 2 * (assemble body).length) (by omega), Nat.add_right_comm]

include hc in
theorem countdown_back {k : Nat} (hl : (assemble body).length ≤ 60)
    (h : reg 2 = BitVec.ofNat 32 (4 * (k + 1))) :
    Leads (cpuSingleStep host) (Guest.Describes rs) 2
      (.of reg (pc + BitVec.ofNat 32 (10 + 2 * (assemble body).length)) m)
      (.of (Function.update reg 2 (BitVec.ofNat 32 (4 * k))) (pc + BitVec.ofNat 32 8) m) := by
  have hs : m.HoldsCode (rs.map Region.area) pc.toNat (assemble <|
      ([.bicsImm 2 2 3, .cbz 2 (2 * (assemble body).length + 6 : Nat), .subImm 2 4] ++ body ++
        [.cbz 2 2]) ++ .subImm 2 4 :: [.b (-(2 * (assemble body).length + 8 : Nat))]) := by
    rw [List.append_assoc]
    exact hc
  have hb : m.HoldsCode (rs.map Region.area) pc.toNat (assemble <|
      ([.bicsImm 2 2 3, .cbz 2 (2 * (assemble body).length + 6 : Nat), .subImm 2 4] ++ body ++
        [.cbz 2 2, .subImm 2 4]) ++ .b (-(2 * (assemble body).length + 8 : Nat)) :: []) := by
    rw [List.append_assoc]
    exact hc
  have hi : (2 : Int) ^ (BranchInsn.bT2 0).immBits = 2 ^ 11 := rfl
  refine Leads.trans (m := 1) (leads_of _ hs ?_ trivial (fun _ h => by cases h) (effect_subImm h))
    (leads_of _ hb ?_ ⟨?_, ?_, ?_⟩ (fun _ h => by cases h) (Guest.of_branch ?_))
  case refine_1 =>
    rw [assemble_append, assemble_append, List.length_append, List.length_append]
    change _ = 2 * (4 + _ + 1)
    omega
  case refine_2 =>
    rw [assemble_append, assemble_append, List.length_append, List.length_append]
    change _ = 2 * (4 + _ + 2)
    omega
  all_goals omega

end

-- In each round, the body takes the next word. Before that, `r2` has got the offset of the word.
theorem countdown_leads (hl : (assemble body).length ≤ 60) (hr : (R n 2).toNat / 4 = n)
    (hc : ∀ k ≤ n, (M k).HoldsCode (rs.map Region.area) pc.toNat (assemble <| countdown body))
    (hb : ∀ k < n, Leads (cpuSingleStep host) (Guest.Describes rs) c
      (.of (Function.update (R (k + 1)) 2 (BitVec.ofNat 32 (4 * k))) (pc + BitVec.ofNat 32 8)
        (M (k + 1)))
      (.of (Function.update (R k) 2 (BitVec.ofNat 32 (4 * k)))
        (pc + BitVec.ofNat 32 (8 + 2 * (assemble body).length)) (M k))) :
    Leads (cpuSingleStep host) (Guest.Describes rs) (countdownSteps c n)
      (.of (R n) (pc + BitVec.ofNat 32 0) (M n))
      (.of (Function.update (R 0) 2 0)
        (pc + BitVec.ofNat 32 (14 + 2 * (assemble body).length)) (M 0)) := by
  have hn : 4 * n < 2 ^ 32 := by
    have := (R n 2).isLt
    omega
  have hz (k : Nat) (hk : k ≤ n) : BitVec.ofNat 32 (4 * k) = 0 ↔ k = 0 :=
    ofNat_four_eq_zero_iff (by omega)
  have hs : Leads (cpuSingleStep host) _ _ _ _ := countdown_bics (R n) (hc n le_rfl)
  have ht : Leads (cpuSingleStep host) _ _ _ _ := countdown_cbz
    (Function.update (R n) 2 (BitVec.ofNat 32 (4 * ((R n 2).toNat / 4)))) (hc n le_rfl) hl
  rw [hr] at hs ht
  rw [Function.update_self] at ht
  cases n
  case zero =>
    rw [if_pos <| hz 0 le_rfl |>.mpr rfl] at ht
    exact hs.trans ht
  case succ n =>
    rw [if_neg <| (hz (n + 1) le_rfl).not.mpr n.succ_ne_zero] at ht
    have hf : Leads (cpuSingleStep host) _ _ _ _ := countdown_subImm
      (Function.update (R (n + 1)) 2 (BitVec.ofNat 32 (4 * (n + 1)))) (hc (n + 1) le_rfl)
      (Function.update_self ..)
    rw [Function.update_idem] at hf
    have loop : ∀ j < n, Leads (cpuSingleStep host) (Guest.Describes rs) (c + 3)
        (.of (Function.update (R (n + 1 - j)) 2 (BitVec.ofNat 32 (4 * (n - j))))
          (pc + BitVec.ofNat 32 8) (M (n + 1 - j)))
        (.of (Function.update (R (n + 1 - (j + 1))) 2 (BitVec.ofNat 32 (4 * (n - (j + 1)))))
          (pc + BitVec.ofNat 32 8) (M (n + 1 - (j + 1)))) := by
      intro j hj
      obtain ⟨k, rfl⟩ := Nat.exists_eq_add_of_lt hj
      have h₁ : j + k + 1 + 1 - j = k + 2 := by omega
      have h₂ : j + k + 1 - j = k + 1 := by omega
      have h₃ : j + k + 1 + 1 - (j + 1) = k + 1 := by omega
      have h₄ : j + k + 1 - (j + 1) = k := by omega
      rw [h₁, h₂, h₃, h₄]
      have ht' : Leads (cpuSingleStep host) _ _ _ _ := countdown_test
        (Function.update (R (k + 1)) 2 (BitVec.ofNat 32 (4 * (k + 1)))) (hc (k + 1) (by omega))
      rw [Function.update_self, if_neg <| (hz (k + 1) (by omega)).not.mpr k.succ_ne_zero] at ht'
      have hg : Leads (cpuSingleStep host) _ _ _ _ := countdown_back
        (Function.update (R (k + 1)) 2 (BitVec.ofNat 32 (4 * (k + 1)))) (hc (k + 1) (by omega)) hl
        (Function.update_self ..)
      rw [Function.update_idem] at hg
      exact hb (k + 1) (by omega) |>.trans <| ht'.trans hg
    have hlast := hb 0 n.succ_pos
    have hstop : Leads (cpuSingleStep host) _ _ _ _ := countdown_test
      (Function.update (R 0) 2 (BitVec.ofNat 32 (4 * 0))) (hc 0 (Nat.zero_le _))
    rw [Function.update_self, if_pos <| hz 0 (Nat.zero_le _) |>.mpr rfl] at hstop
    have hloop := Leads.loop loop
    rw [Nat.sub_self, Nat.sub_zero, Nat.sub_zero, Nat.add_sub_cancel_left] at hloop
    exact hs.trans ht |>.trans hf |>.trans <| hloop.trans <| hlast.trans hstop

end
