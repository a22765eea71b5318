import Thumb2Sim.Emulation.Basic

open Program

-- The operations that handlers are put together from. A register number that may be the one of PC
-- may only be used with values that have the property `good`.
inductive Prim {U : Type} (good : Word → Prop) :
    ∀ {α : Type}, Emu U α → (α → Prop) → Prop
  | getReg (r : RegNo) : Prim good (Emu.getReg r) fun v => r = regPc → good v
  | setReg {r : RegNo} {v : Word} : (r = regPc → good v) → Prim good (Emu.setReg r v) fun _ => True
  | getPsr : Prim good Emu.getPsr fun _ => True
  | setPsr (psr : Word) : Prim good (Emu.setPsr psr) fun _ => True
  | getItState : Prim good Emu.getItState fun _ => True
  | setAdvancePc (b : Bool) : Prim good (Emu.setAdvancePc b) fun _ => True
  | read8 (address : Word) : Prim good (Emu.read8 address) fun _ => True
  | read16 (address : Word) : Prim good (Emu.read16 address) fun _ => True
  | read32 (address : Word) : Prim good (Emu.read32 address) fun _ => True
  | write8 (address : Word) (value : Byte) : Prim good (Emu.write8 address value) fun _ => True
  | write16 (address : Word) (value : BitVec 16) :
    Prim good (Emu.write16 address value) fun _ => True
  | write32 (address value : Word) : Prim good (Emu.write32 address value) fun _ => True
  | checked {α : Type} (x : Except Undefined α) : Prim good (Program.checked x) (x = .ok ·)

-- Properties of values that branches preserve.
structure Stable (good : Word → Prop) : Prop where
  add   : ∀ v x, good v → good (v + 2 * x)
  clear : ∀ v, good (v &&& ~~~1)

theorem Stable.add_four {good : Word → Prop} (h : Stable good) {v : Word} (hv : good v) :
    good (v + 4) :=
  h.add v 2 hv

theorem Stable.sub_four {good : Word → Prop} (h : Stable good) {v : Word} (hv : good v) :
    good (v - 4) := by
  have hs : v - 4 = v + 2 * -2 := by bv_omega
  exact hs ▸ h.add v (-2) hv

-- Nothing is asked of the values.
theorem Stable.top : Stable fun _ => True where
  add   := fun _ _ _ => trivial
  clear := fun _ => trivial

-- Arbitrary values may be written to the given registers: none of them is PC, or all values have
-- the property `good`.
def Allowed (good : Word → Prop) (l : List RegNo) : Prop :=
  regPc ∈ l → ∀ v, good v

namespace Allowed

variable {good : Word → Prop} {l l' : List RegNo}

theorem nil : Allowed good [] :=
  fun h => by simp at h

theorem top : Allowed (fun _ => True) l :=
  fun _ _ => trivial

theorem of_ne {r : RegNo} (h : r ≠ regPc) : Allowed good [r] :=
  fun hr => absurd (List.mem_singleton.mp hr).symm h

theorem subset (h : Allowed good l) (hs : ∀ r ∈ l', r ∈ l) : Allowed good l' :=
  fun hr => h (hs regPc hr)

theorem left (h : Allowed good (l ++ l')) : Allowed good l :=
  h.subset fun _ => List.mem_append_left l'

theorem right (h : Allowed good (l ++ l')) : Allowed good l' :=
  h.subset fun _ => List.mem_append_right l

end Allowed

-- Programs that are put together from these operations.
def Plain {U α : Type} (good : Word → Prop) (m : Emu U α) : Prop :=
  Composite (Prim good) m fun _ => True

-- The status of the CPU decides whether the next instruction is executed.
def KeepsStatus {U α : Type} (m : Emu U α) : Prop :=
  ∀ s a s', m s = .ok (a, s') →
    s'.emuCtx.cpu.psr = s.emuCtx.cpu.psr ∧ s'.emuCtx.cpu.itState = s.emuCtx.cpu.itState

namespace KeepsStatus

variable {U α : Type}

theorem of_load {f : Addrspace → HostMemory → Except Undefined α} :
    KeepsStatus (U := U) (Emu.load f) := by
  intro s _ _ h
  simp only [Emu.load, bind, Except.bind] at h
  split at h <;> cases h
  exact ⟨rfl, rfl⟩

theorem of_store {f : Addrspace → HostMemory → Except Undefined HostMemory} :
    KeepsStatus (U := U) (Emu.store f) := by
  intro s _ _ h
  simp only [Emu.store, bind, Except.bind] at h
  split at h <;> cases h
  exact ⟨rfl, rfl⟩

theorem getReg {r : RegNo} : KeepsStatus (U := U) (Emu.getReg r) := by
  intro s _ _ h
  unfold Emu.getReg at h
  split at h <;> cases h
  exact ⟨rfl, rfl⟩

theorem setReg {r : RegNo} {v : Word} : KeepsStatus (U := U) (Emu.setReg r v) := by
  intro s _ _ h
  unfold Emu.setReg at h
  split at h <;> cases h
  exact ⟨rfl, rfl⟩

theorem checked {x : Except Undefined α} : KeepsStatus (U := U) (Program.checked x) := by
  intro s _ _ h
  cases x <;> cases h
  exact ⟨rfl, rfl⟩

end KeepsStatus

-- Properties of PC, the status register and the state of the IT block that hold while a handler
-- does its work. The condition codes of moves and shifts do not get in the way of them.
structure Guard where
  pc      : Word → Prop
  psr     : Word → Prop
  itState : Byte → Prop
  mov     : ∀ p v, psr p → psr (p &&& ~~~(flagNegative ||| flagZero) ||| movCondCode v)
  lsl     : ∀ p v, ∀ c : Bool, psr p →
    psr (p &&& ~~~(flagNegative ||| flagZero ||| flagCarry) |||
      (movCondCode v ||| if c then flagCarry else 0))

-- Nothing is asked but that the values of PC are good.
def Guard.ofPc (good : Word → Prop) : Guard where
  pc      := good
  psr     := fun _ => True
  itState := fun _ => True
  mov     := fun _ _ _ => trivial
  lsl     := fun _ _ _ _ => trivial

-- The condition codes of additions and subtractions, which replace all flags, do not get in the way
-- either if they are set always, or if they are set only outside of an IT block.
def Guard.AllowsFlags (g : Guard) (alwaysSet : Bool) : Prop :=
  ∀ it, g.itState it → (alwaysSet || it &&& 0x03 == itNone) →
    ∀ p v, g.psr p → g.psr (p &&& ~~~flagMask ||| v)

-- The operations again, with the properties of the status.
inductive GuardedPrim {U : Type} (g : Guard) : ∀ {α : Type}, Emu U α → (α → Prop) → Prop
  | of_prim {α : Type} {m : Emu U α} {Q : α → Prop} :
    Prim g.pc m Q → KeepsStatus m → GuardedPrim g m Q
  | getPsr : GuardedPrim g Emu.getPsr g.psr
  | setPsr {psr : Word} : g.psr psr → GuardedPrim g (Emu.setPsr psr) fun _ => True
  | getItState : GuardedPrim g Emu.getItState g.itState

namespace GuardedPrim

variable {U : Type} {g : Guard} {r : RegNo} {v address : Word}

theorem getReg (r : RegNo) :
    GuardedPrim (U := U) g (Emu.getReg r) fun v => r = regPc → g.pc v :=
  .of_prim (.getReg r) .getReg

theorem setReg (h : r = regPc → g.pc v) :
    GuardedPrim (U := U) g (Emu.setReg r v) fun _ => True :=
  .of_prim (.setReg h) .setReg

theorem checked {α : Type} (x : Except Undefined α) :
    GuardedPrim (U := U) g (Program.checked x) (x = .ok ·) :=
  .of_prim (.checked x) .checked

theorem plain {α : Type} {good : Word → Prop} {m : Emu U α} {Q : α → Prop}
    (h : GuardedPrim (.ofPc good) m Q) : Prim good m Q := by
  cases h
  case of_prim _ h => exact h
  case getPsr      => exact .getPsr
  case setPsr      => exact .setPsr _
  case getItState  => exact .getItState

end GuardedPrim

-- Programs that are put together from these operations.
def Guarded {U α : Type} (g : Guard) (m : Emu U α) : Prop :=
  Composite (GuardedPrim g) m fun _ => True

namespace Guarded

variable {U α β : Type} {g : Guard} {m : Emu U α} {f : α → Emu U β} {Q : α → Prop}
  {r : RegNo} {v address : Word} {l : List RegNo} {c b : Bool}

theorem plain {good : Word → Prop} (h : Guarded (.ofPc good) m) : Plain good m :=
  h.mono GuardedPrim.plain

theorem of_composite (h : Composite (GuardedPrim g) m Q) : Guarded g m :=
  h.weaken fun _ _ => trivial

theorem of_prim (h : GuardedPrim g m Q) : Guarded g m :=
  of_composite <| .prim h

theorem pure {a : α} : Guarded (U := U) g (Pure.pure a) :=
  Composite.pure trivial

theorem bind (h : Guarded g m) (hf : ∀ a, Guarded g (f a)) : Guarded g (m >>= f) :=
  Composite.bind h fun a _ => hf a

theorem when {m : Emu U Unit} (h : Guarded g m) : Guarded g (Program.when c m) :=
  Composite.when fun _ => h

theorem ite {p : Prop} [Decidable p] {m' : Emu U α} (h : Guarded g m) (h' : Guarded g m') :
    Guarded g (if p then m else m') :=
  Composite.ite (fun _ => h) (fun _ => h')

theorem checked {x : Except Undefined α} : Guarded (U := U) g (Program.checked x) :=
  of_prim <| .checked x

theorem getReg : Guarded (U := U) g (Emu.getReg r) :=
  of_prim <| .getReg r

theorem setReg (ha : Allowed g.pc l) (hr : r ∈ l) : Guarded (U := U) g (Emu.setReg r v) :=
  of_prim <| .setReg fun h => ha (h ▸ hr) v

theorem setReg_ne (hr : r ≠ regPc) : Guarded (U := U) g (Emu.setReg r v) :=
  of_prim <| .setReg fun h => absurd h hr

theorem setReg_good (hv : g.pc v) : Guarded (U := U) g (Emu.setReg r v) :=
  of_prim <| .setReg fun _ => hv

theorem getPsr : Guarded (U := U) g Emu.getPsr :=
  of_prim .getPsr

theorem setPsr (hv : g.psr v) : Guarded (U := U) g (Emu.setPsr v) :=
  of_prim <| .setPsr hv

theorem setAdvancePc : Guarded (U := U) g (Emu.setAdvancePc b) :=
  of_prim <| .of_prim (.setAdvancePc b) fun _ _ _ h => by cases h; exact ⟨rfl, rfl⟩

theorem read8 : Guarded (U := U) g (Emu.read8 address) :=
  of_prim <| .of_prim (.read8 address) .of_load

theorem read16 : Guarded (U := U) g (Emu.read16 address) :=
  of_prim <| .of_prim (.read16 address) .of_load

theorem read32 : Guarded (U := U) g (Emu.read32 address) :=
  of_prim <| .of_prim (.read32 address) .of_load

theorem write8 {value : Byte} : Guarded (U := U) g (Emu.write8 address value) :=
  of_prim <| .of_prim (.write8 address value) .of_store

theorem write16 {value : BitVec 16} : Guarded (U := U) g (Emu.write16 address value) :=
  of_prim <| .of_prim (.write16 address value) .of_store

theorem write32 : Guarded (U := U) g (Emu.write32 address v) :=
  of_prim <| .of_prim (.write32 address v) .of_store

-- The condition codes are set always or outside of an IT block.
theorem unconditionally {m : Emu U Unit}
    (h : (∃ it, g.itState it ∧ (b || it &&& 0x03 == itNone)) → Guarded g m) :
    Guarded g (Emu.emulatorExecutionUnconditionally >>= fun c => Program.when (b || c) m) := by
  refine Composite.bind (Q := fun c => ∃ it, g.itState it ∧ c = (it &&& 0x03 == itNone)) ?_ ?_
  case refine_1 =>
    exact Composite.bind (.prim .getItState) fun it hi => .pure ⟨it, hi, rfl⟩
  case refine_2 =>
    rintro _ ⟨it, hi, rfl⟩
    exact Composite.when fun hc => h ⟨it, hi, hc⟩

theorem setCondCode (hf : ∀ p, g.psr p → g.psr (p &&& ~~~flagMask ||| v)) :
    Guarded (U := U) g (Emu.setCondCode v) :=
  Composite.bind (.prim .getPsr) fun p hp => setPsr <| hf p hp

theorem setMovCondCode : Guarded (U := U) g (Emu.setMovCondCode b v) :=
  unconditionally fun _ => Composite.bind (.prim .getPsr) fun p hp => setPsr <| g.mov p v hp

theorem setLslCondCode : Guarded (U := U) g (Emu.setLslCondCode b v c) :=
  unconditionally fun _ => Composite.bind (.prim .getPsr) fun p hp => setPsr <| g.lsl p v c hp

variable {valueA valueB : Word} {overflow : SignedOverflow}

theorem setSubCondCode (hf : g.AllowsFlags b) :
    Guarded (U := U) g (Emu.setSubCondCode overflow b valueA valueB) :=
  unconditionally fun ⟨it, hi, hb⟩ => setCondCode fun p => hf it hi hb p _

theorem setAddCondCode (hf : g.AllowsFlags b) :
    Guarded (U := U) g (Emu.setAddCondCode b valueA valueB) :=
  unconditionally fun ⟨it, hi, hb⟩ => setCondCode fun p => hf it hi hb p _

-- The same for the handlers that set the flags only if they are told so.
theorem whenSub (hf : c → g.AllowsFlags b) :
    Guarded (U := U) g (Program.when c <| Emu.setSubCondCode overflow b valueA valueB) :=
  Composite.when fun hc => setSubCondCode (hf hc)

theorem whenAdd (hf : c → g.AllowsFlags b) :
    Guarded (U := U) g (Program.when c <| Emu.setAddCondCode b valueA valueB) :=
  Composite.when fun hc => setAddCondCode (hf hc)

end Guarded
