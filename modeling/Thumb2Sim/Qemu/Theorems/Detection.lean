import Thumb2Sim.Lib.HashChain
import Thumb2Sim.Qemu.Theorems.Trace

open TraceReader TraceComparator

namespace TraceReader

variable {callback : FilePoint → FilePoint → Except TraceError Unit} {p q : Nat → FilePoint}

-- Points with the same numbers are compared one by one.
theorem align_map_append (hp : ∀ k, (p k).executedInsns = (q k).executedInsns) (l : List Nat)
    (pts₁ pts₂ : List FilePoint) :
    align callback (l.map p ++ pts₁) (l.map q ++ pts₂) = .ok () ↔
      (∀ k ∈ l, callback (p k) (q k) = .ok ()) ∧ align callback pts₁ pts₂ = .ok () := by
  induction l
  case nil => simp
  case cons k l hi =>
    simp only [List.map_cons, List.cons_append, List.forall_mem_cons]
    rw [align_cons_of_eq (hp k), Except.bind_unit_ok_iff, and_assoc, hi]

end TraceReader

namespace Sampling

variable (sampling : Sampling)

-- The longer recording has further steps.
theorem recorded_add (m n : Nat) :
    ∃ l, sampling.recorded (m + n) = sampling.recorded m ++ l ∧ ∀ k ∈ l, m < k := by
  induction n
  case zero => exact ⟨[], (List.append_nil _).symm, fun _ hk => by cases hk⟩
  case succ n hi =>
    obtain ⟨l, hl, hm⟩ := hi
    refine ⟨l ++ if sampling.Records (m + n + 1) then [m + n + 1] else [], ?_, fun k hk => ?_⟩
    case refine_1 => rw [← Nat.add_assoc, recorded, hl, List.append_assoc]
    case refine_2 =>
      cases List.mem_append.mp hk
      case inl hk => exact hm k hk
      case inr hk =>
        split at hk
        case isTrue  => rw [List.mem_singleton.mp hk]; omega
        case isFalse => cases hk

end Sampling

namespace Execution

-- What is recorded of the target behind `n` steps.
def values {σ : Type} (e : Execution σ) (n : Nat) : List (Vector Byte 16) :=
  e.tracetypes.map <| TraceType.get e.target e.md5 e.args <| e.stateAt n

variable {σ₁ σ₂ : Type} {e₁ : Execution σ₁} {e₂ : Execution σ₂} {sampling : Sampling}
  {n n₁ n₂ k : Nat} {encoding₁ encoding₂ : TraceEncoding} {hash₁ hash₂ : Vector Byte 16}
  {b₁ b₂ : Bool}

theorem compareTracepoint_points (ht : e₁.tracetypes.length = e₂.tracetypes.length) :
    compareTracepoint encoding₁ encoding₂ (filePoint encoding₁ <| e₁.point hash₁ n b₁)
        (filePoint encoding₂ <| e₂.point hash₂ n b₂) = .ok () ↔
      hash₁ = hash₂ ∧ e₁.values n = e₂.values n := by
  rw [compareTracepoint_eq <| by rw [components_length, components_length, ht]]
  have hc : (e₁.point hash₁ n b₁).components = (e₂.point hash₂ n b₂).components ↔
      hash₁ = hash₂ ∧ e₁.values n = e₂.values n := List.cons_eq_cons
  rw [← hc]
  split
  case isTrue h  => exact iff_of_true rfl h
  case isFalse h => exact iff_of_false (fun h => by cases h) h

-- The ends of the traces.
theorem align_last (ht : e₁.tracetypes.length = e₂.tracetypes.length) :
    align (compareTracepoint encoding₁ encoding₂) [filePoint encoding₁ <| e₁.snapshot n]
        [filePoint encoding₂ <| e₂.snapshot n] = .ok () ↔
      e₁.chainHash n = e₂.chainHash n ∧ e₁.values n = e₂.values n := by
  have hn : align (compareTracepoint encoding₁ encoding₂) [] [] = .ok () := align_nil_left
  rw [align_cons_of_eq (show n = n from rfl), Except.bind_unit_ok_iff, and_iff_left hn]
  exact compareTracepoint_points ht

-- A point that stands in front of all points of the other trace is not compared.

theorem align_before {callback : FilePoint → FilePoint → Except TraceError Unit} {pt : FilePoint}
    {pts : List FilePoint} (h : ∀ pt' ∈ pts, pt.executedInsns < pt'.executedInsns) :
    align callback [pt] pts = .ok () := by
  cases pts
  case nil      => exact align_nil_right
  case cons p _ => exact (align_cons_of_lt <| h p List.mem_cons_self).trans align_nil_left

theorem align_behind {callback : FilePoint → FilePoint → Except TraceError Unit} {pt : FilePoint}
    {pts : List FilePoint} (h : ∀ pt' ∈ pts, pt.executedInsns < pt'.executedInsns) :
    align callback pts [pt] = .ok () := by
  cases pts
  case nil      => exact align_nil_left
  case cons p _ => exact (align_cons_of_gt <| h p List.mem_cons_self).trans align_nil_right

-- The steps of the longer recording that the other one does not have.
theorem lt_of_mem_rest {l : List Nat} (hl : ∀ k ∈ l, n₁ < k) (hn : n₁ < n) :
    ∀ pt ∈ (l.map fun k => filePoint encoding₁ (e₁.stepPoint k)) ++
      [filePoint encoding₁ <| e₁.snapshot n], n₁ < pt.executedInsns := by
  intro pt hp
  cases List.mem_append.mp hp
  case inl hp =>
    obtain ⟨k, hk, rfl⟩ := List.mem_map.mp hp
    exact hl k hk
  case inr hp => rwa [List.mem_singleton.mp hp]

theorem align_recorded (ht : e₁.tracetypes.length = e₂.tracetypes.length) :
    align (compareTracepoint encoding₁ encoding₂)
        (((sampling.recorded n₁).map fun k => filePoint encoding₁ (e₁.stepPoint k)) ++
          [filePoint encoding₁ <| e₁.snapshot n₁])
        (((sampling.recorded n₂).map fun k => filePoint encoding₂ (e₂.stepPoint k)) ++
          [filePoint encoding₂ <| e₂.snapshot n₂]) = .ok () ↔
      (∀ k ∈ sampling.recorded (min n₁ n₂),
        e₁.chainHash (k - 1) = e₂.chainHash (k - 1) ∧ e₁.values k = e₂.values k) ∧
      (n₁ = n₂ → e₁.chainHash n₁ = e₂.chainHash n₂ ∧ e₁.values n₁ = e₂.values n₂) := by
  have hs (k : Nat) : compareTracepoint encoding₁ encoding₂ (filePoint encoding₁ <| e₁.stepPoint k)
      (filePoint encoding₂ <| e₂.stepPoint k) = .ok () ↔
      e₁.chainHash (k - 1) = e₂.chainHash (k - 1) ∧ e₁.values k = e₂.values k :=
    compareTracepoint_points ht
  have ha (l : List Nat) (pts₁ pts₂ : List FilePoint) :
      align (compareTracepoint encoding₁ encoding₂)
        ((l.map fun k => filePoint encoding₁ (e₁.stepPoint k)) ++ pts₁)
        ((l.map fun k => filePoint encoding₂ (e₂.stepPoint k)) ++ pts₂) = .ok () ↔
      (∀ k ∈ l, e₁.chainHash (k - 1) = e₂.chainHash (k - 1) ∧ e₁.values k = e₂.values k) ∧
        align (compareTracepoint encoding₁ encoding₂) pts₁ pts₂ = .ok () := by
    have hk (k : Nat) : (filePoint encoding₁ <| e₁.stepPoint k).executedInsns =
        (filePoint encoding₂ <| e₂.stepPoint k).executedInsns := rfl
    simp only [← hs]
    exact align_map_append hk l pts₁ pts₂
  rcases lt_trichotomy n₁ n₂ with hn | rfl | hn
  · obtain ⟨d, rfl⟩ := Nat.exists_eq_add_of_lt hn
    obtain ⟨l, hl, hm⟩ := sampling.recorded_add n₁ (d + 1)
    rw [Nat.add_assoc] at hn ⊢
    rw [hl, List.map_append, List.append_assoc, ha, Nat.min_eq_left hn.le, and_congr_right_iff]
    exact fun _ => iff_of_true (align_before <| lt_of_mem_rest hm hn) fun he => absurd he hn.ne
  · rw [ha, align_last ht, Nat.min_self, and_congr_right_iff]
    exact fun _ => ⟨fun h _ => h, fun h => h rfl⟩
  · obtain ⟨d, rfl⟩ := Nat.exists_eq_add_of_lt hn
    obtain ⟨l, hl, hm⟩ := sampling.recorded_add n₂ (d + 1)
    rw [Nat.add_assoc] at hn ⊢
    rw [hl, List.map_append, List.append_assoc, ha, Nat.min_eq_right hn.le, and_congr_right_iff]
    exact fun _ => iff_of_true (align_behind <| lt_of_mem_rest hm hn) fun he => absurd he hn.ne'

-- Comparing the traces of two executions compares the initial states, the steps that are recorded
-- in both traces, and the final states if the executions have as many steps.
theorem compare_recordings_iff (ht : e₁.tracetypes.length = e₂.tracetypes.length) :
    TraceComparator.compare encoding₁ encoding₂ (e₁.recording sampling n₁)
        (e₂.recording sampling n₂) = .ok () ↔
      e₁.values 0 = e₂.values 0 ∧
      (∀ k ∈ sampling.recorded (min n₁ n₂),
        e₁.chainHash (k - 1) = e₂.chainHash (k - 1) ∧ e₁.values k = e₂.values k) ∧
      (n₁ = n₂ → e₁.chainHash n₁ = e₂.chainHash n₂ ∧ e₁.values n₁ = e₂.values n₂) := by
  have hc : compareTracepoint encoding₁ encoding₂ (filePoint encoding₁ <| e₁.snapshot 0)
      (filePoint encoding₂ <| e₂.snapshot 0) = .ok () ↔ e₁.values 0 = e₂.values 0 :=
    (compareTracepoint_points ht).trans <| and_iff_right rfl
  rw [compare_eq, recording, recording, List.cons_append, List.cons_append, List.map_cons,
    List.map_cons, List.map_append, List.map_append, List.map_map, List.map_map,
    align_cons_of_eq (show 0 = 0 from rfl), Except.bind_unit_ok_iff, hc, ← align_recorded ht]
  rfl

-- The traces of two executions that are recorded alike. The end of the longer execution is not
-- compared with anything, and the shorter one may end anywhere.
theorem compare_records_iff (encoding₁ encoding₂ : TraceEncoding)
    (ht : e₁.tracetypes.length = e₂.tracetypes.length) (h₁ : e₁.Ends n₁) (h₂ : e₂.Ends n₂)
    (hd : sampling.decimation ≠ 0) :
    ∃ trace₁ trace₂, (∀ steps ≥ n₁, e₁.record sampling steps = some trace₁) ∧
      (∀ steps ≥ n₂, e₂.record sampling steps = some trace₂) ∧
      (TraceComparator.compare encoding₁ encoding₂ trace₁ trace₂ = .ok () ↔
        e₁.values 0 = e₂.values 0 ∧
        (∀ k ∈ sampling.recorded (min n₁ n₂),
          e₁.chainHash (k - 1) = e₂.chainHash (k - 1) ∧ e₁.values k = e₂.values k) ∧
        (n₁ = n₂ → e₁.chainHash n₁ = e₂.chainHash n₂ ∧ e₁.values n₁ = e₂.values n₂)) :=
  ⟨_, _, fun _ => record_eq h₁ hd, fun _ => record_eq h₂ hd, compare_recordings_iff ht⟩

-- What is hashed behind the step number `n + 1`, together with the hash of everything before.
def chained {σ : Type} (e : Execution σ) (n : Nat) : List Byte :=
  (e.chainHash n :: e.values (n + 1)).flatMap Vector.toList

-- What a component is the digest of.
def observed {σ : Type} (e : Execution σ) (n : Nat) : TraceType → List Byte
  | .registerHash              => TraceType.pack <| e.target.getRegs <| e.stateAt n
  | .memoryHash address length => e.target.readMemory (e.stateAt n) address length

-- Two texts with the same digest.
def Collide (md5 : Md5) (x y : List Byte) : Prop :=
  x ≠ y ∧ md5 x = md5 y

def link (md5 : Md5) (hash : Vector Byte 16) (values : List (Vector Byte 16)) : Vector Byte 16 :=
  md5 <| (hash :: values).flatMap Vector.toList

theorem chainHash_eq {σ : Type} (e : Execution σ) (n : Nat) : e.chainHash n =
    HashChain.chain (link e.md5) (Vector.replicate 16 0) (fun k => e.values (k + 1)) n := by
  induction n
  case zero      => rfl
  case succ n hi => rw [HashChain.chain, ← hi]; rfl

theorem flatMap_toList_inj {xs ys : List (Vector Byte 16)} (hl : xs.length = ys.length)
    (h : xs.flatMap Vector.toList = ys.flatMap Vector.toList) : xs = ys := by
  have hx : xs.map Vector.toList = ys.map Vector.toList := by
    refine List.eq_iff_flatten_eq.mpr ⟨by rwa [← List.flatMap_def, ← List.flatMap_def], ?_⟩
    simp [Function.comp_def, hl]
  exact List.map_injective_iff.mpr (fun _ _ => Vector.toList_inj.mp) hx

-- Equal final hashes mean equal values behind all steps, or a collision.
theorem values_eq_or_collide (ht : e₁.tracetypes.length = e₂.tracetypes.length)
    (hm : e₁.md5 = e₂.md5) (h : e₁.chainHash n = e₂.chainHash n) :
    (∀ k < n, e₁.values (k + 1) = e₂.values (k + 1)) ∨
      ∃ k < n, Collide e₁.md5 (e₁.chained k) (e₂.chained k) := by
  rw [chainHash_eq, chainHash_eq, ← hm] at h
  obtain hv | ⟨k, hk, hne, hc⟩ := HashChain.eq_or_collides h
  case inl => exact .inl hv
  case inr =>
    have h₁ : HashChain.chain _ _ _ k = e₁.chainHash k := (chainHash_eq e₁ k).symm
    have h₂ : HashChain.chain (link e₁.md5) _ _ k = e₂.chainHash k := hm ▸ (chainHash_eq e₂ k).symm
    rw [HashChain.chain, HashChain.chain, h₁, h₂] at hc
    rw [h₁, h₂] at hne
    refine .inr ⟨k, hk, fun he => hne ?_, hc⟩
    obtain ⟨hh, hv⟩ := List.cons.inj <| flatMap_toList_inj (by simp [values, ht]) he
    exact congrArg₂ Prod.mk hh hv

end Execution

namespace TraceType

variable {regs regs' : RegDict}

theorem ofNat_four_inj {v v' : Nat} (hv : v < 2 ^ 32) (hv' : v' < 2 ^ 32)
    (h : Bytes.ofNat 4 v = Bytes.ofNat 4 v') : v = v' := by
  have hb := congrArg Bytes.toNat h
  rw [Bytes.toNat_ofNat, Bytes.toNat_ofNat] at hb
  omega

-- The registers and the flags that are looked at can be read from their packed form.
theorem pack_inj (hr : ∀ i, regs.r i < 2 ^ 32) (hr' : ∀ i, regs'.r i < 2 ^ 32)
    (h : pack regs = pack regs') :
    regs.r = regs'.r ∧ regs.psr &&& 0xf0000000 = regs'.psr &&& 0xf0000000 := by
  have hp : ∀ psr : Nat, psr &&& 0xf0000000 < 2 ^ 32 := fun psr =>
    Nat.lt_of_le_of_lt Nat.and_le_right (by decide)
  obtain ⟨hl, hf⟩ := List.append_inj' h <| by rw [Bytes.ofNat_length, Bytes.ofNat_length]
  refine ⟨funext fun i => ?_, ofNat_four_inj (hp _) (hp _) hf⟩
  have hm : (List.finRange 16).map (fun i => Bytes.ofNat 4 (regs.r i)) =
      (List.finRange 16).map fun i => Bytes.ofNat 4 (regs'.r i) := by
    refine List.eq_iff_flatten_eq.mpr ⟨by rwa [← List.flatMap_def, ← List.flatMap_def], ?_⟩
    simp [Function.comp_def]
  exact ofNat_four_inj (hr i) (hr' i) <| List.map_inj_left.mp hm i <| List.mem_finRange i

end TraceType

namespace Execution

variable {σ₁ σ₂ : Type} {e₁ : Execution σ₁} {e₂ : Execution σ₂} {sampling : Sampling} {n : Nat}
  {encoding₁ encoding₂ : TraceEncoding}

-- The digest that the target computes is the one of its memory, and the registers have 32 bits.
structure Faithful {σ : Type} (e : Execution σ) : Prop where
  hashMemory : ∀ n startAddress length, e.target.hashMemory (e.stateAt n) startAddress length =
    e.md5 (e.target.readMemory (e.stateAt n) startAddress length)
  reg        : ∀ n i, (e.target.getRegs <| e.stateAt n).r i < 2 ^ 32

-- Both recordings look at the same things and use the same digest.
structure Comparable (e₁ : Execution σ₁) (e₂ : Execution σ₂) : Prop where
  tracetypes : e₁.tracetypes = e₂.tracetypes
  md5        : e₁.md5 = e₂.md5
  faithful₁  : e₁.Faithful
  faithful₂  : e₂.Faithful

-- What is looked at is the same in both executions behind `n` steps.
structure AgreeAt (e₁ : Execution σ₁) (e₂ : Execution σ₂) (n : Nat) : Prop where
  regs   : .registerHash ∈ e₁.tracetypes →
    (e₁.target.getRegs <| e₁.stateAt n).r = (e₂.target.getRegs <| e₂.stateAt n).r
  flags  : .registerHash ∈ e₁.tracetypes →
    (e₁.target.getRegs <| e₁.stateAt n).psr &&& 0xf0000000 =
      (e₂.target.getRegs <| e₂.stateAt n).psr &&& 0xf0000000
  memory : ∀ startAddress length, .memoryHash startAddress length ∈ e₁.tracetypes →
    e₁.target.readMemory (e₁.stateAt n) startAddress length =
      e₂.target.readMemory (e₂.stateAt n) startAddress length

theorem get_eq_observed {σ : Type} {e : Execution σ} (h : e.Faithful) (n : Nat)
    (tracetype : TraceType) : tracetype.get e.target e.md5 e.args (e.stateAt n) =
      e.md5 (e.observed n tracetype) := by
  cases tracetype
  case registerHash => rfl
  case memoryHash   => simp only [TraceType.get, h.hashMemory, ite_self, observed]

theorem agreeAt_or_collide (h : Comparable e₁ e₂) (hv : e₁.values n = e₂.values n) :
    AgreeAt e₁ e₂ n ∨ ∃ tracetype ∈ e₁.tracetypes,
      Collide e₁.md5 (e₁.observed n tracetype) (e₂.observed n tracetype) := by
  by_cases ho : ∀ tracetype ∈ e₁.tracetypes, e₁.observed n tracetype = e₂.observed n tracetype
  case pos =>
    have hp (hr : .registerHash ∈ e₁.tracetypes) :=
      TraceType.pack_inj (h.faithful₁.reg n) (h.faithful₂.reg n) <| ho .registerHash hr
    exact .inl ⟨fun hr => (hp hr).left, fun hr => (hp hr).right, fun _ _ hm => ho _ hm⟩
  case neg =>
    simp only [not_forall] at ho
    obtain ⟨tracetype, ht, hne⟩ := ho
    refine .inr ⟨tracetype, ht, hne, ?_⟩
    rw [values, values, ← h.tracetypes] at hv
    have hg := List.map_inj_left.mp hv tracetype ht
    rwa [get_eq_observed h.faithful₁, get_eq_observed h.faithful₂, ← h.md5] at hg

theorem values_eq_of_agreeAt (h : Comparable e₁ e₂) (ha : AgreeAt e₁ e₂ n) :
    e₁.values n = e₂.values n := by
  rw [values, values, ← h.tracetypes]
  refine List.map_inj_left.mpr fun tracetype ht => ?_
  rw [get_eq_observed h.faithful₁, get_eq_observed h.faithful₂, ← h.md5]
  congr 1
  cases tracetype
  case registerHash => simp only [observed, TraceType.pack, ha.regs ht, ha.flags ht]
  case memoryHash   => exact ha.memory _ _ ht

theorem chainHash_eq_of_agreeAt (h : Comparable e₁ e₂) (ha : ∀ k ≤ n, AgreeAt e₁ e₂ k) :
    e₁.chainHash n = e₂.chainHash n := by
  rw [chainHash_eq, chainHash_eq, ← h.md5]
  exact HashChain.chain_congr fun k hk => values_eq_of_agreeAt h <| ha (k + 1) hk

-- Two executions that compare as equal agree at every step, whether or not it is recorded, unless
-- two different texts with the same digest have been hashed in the same place. And if they agree
-- at every step, they compare as equal.
theorem compare_detects (encoding₁ encoding₂ : TraceEncoding) (h : Comparable e₁ e₂)
    (h₁ : e₁.Ends n) (h₂ : e₂.Ends n) (hd : sampling.decimation ≠ 0) :
    ∃ trace₁ trace₂, (∀ steps ≥ n, e₁.record sampling steps = some trace₁) ∧
      (∀ steps ≥ n, e₂.record sampling steps = some trace₂) ∧
      ((∀ k ≤ n, AgreeAt e₁ e₂ k) →
        TraceComparator.compare encoding₁ encoding₂ trace₁ trace₂ = .ok ()) ∧
      (TraceComparator.compare encoding₁ encoding₂ trace₁ trace₂ = .ok () →
        (∀ k ≤ n, AgreeAt e₁ e₂ k) ∨
        (∃ k < n, Collide e₁.md5 (e₁.chained k) (e₂.chained k)) ∨
        ∃ k ≤ n, ∃ tracetype ∈ e₁.tracetypes,
          Collide e₁.md5 (e₁.observed k tracetype) (e₂.observed k tracetype)) := by
  have ht := congrArg List.length h.tracetypes
  refine ⟨_, _, fun _ => record_eq h₁ hd, fun _ => record_eq h₂ hd, fun ha => ?_, fun hc => ?_⟩
  case refine_1 =>
    have hk : ∀ k ≤ n, e₁.chainHash k = e₂.chainHash k ∧ e₁.values k = e₂.values k := fun k hk =>
      ⟨chainHash_eq_of_agreeAt h fun m hm => ha m <| hm.trans hk, values_eq_of_agreeAt h <| ha k hk⟩
    refine compare_recordings_iff ht |>.mpr
      ⟨(hk 0 <| Nat.zero_le n).right, fun k hm => ?_, fun _ => hk n le_rfl⟩
    have hl := sampling.le_of_mem_recorded hm
    rw [Nat.min_self] at hl
    exact ⟨(hk (k - 1) <| (Nat.sub_le ..).trans hl).left, (hk k hl).right⟩
  case refine_2 =>
    obtain ⟨h₀, -, hn⟩ := compare_recordings_iff ht |>.mp hc
    obtain hv | hl := values_eq_or_collide ht h.md5 (hn rfl).left
    case inr => exact .inr <| .inl hl
    case inl =>
      have hv' : ∀ k ≤ n, e₁.values k = e₂.values k := by
        intro k hk
        cases k
        case zero   => exact h₀
        case succ k => exact hv k hk
      by_cases ha : ∀ k ≤ n, AgreeAt e₁ e₂ k
      case pos => exact .inl ha
      case neg =>
        simp only [not_forall] at ha
        obtain ⟨k, hk, ha⟩ := ha
        exact .inr <| .inr ⟨k, hk, agreeAt_or_collide h (hv' k hk) |>.resolve_left ha⟩

-- The target at a branch to itself, where memory is transferred as with the other emulator.
def branchToSelfRaw : Execution RegDict :=
  { branchToSelf with args := { includeRawData := false, emulator := .qemu } }

theorem branchToSelfRaw_ends : branchToSelfRaw.Ends 2 :=
  ⟨branchToSelf_ends.pos, branchToSelf_ends.stops, branchToSelf_ends.first⟩

theorem compare_records_iff_branchToSelf :
    ∃ trace₁ trace₂, (∀ steps ≥ 2, branchToSelf.record ⟨1, true⟩ steps = some trace₁) ∧
      (∀ steps ≥ 2, branchToSelfRaw.record ⟨1, true⟩ steps = some trace₂) ∧
      (TraceComparator.compare plainEncoding plainEncoding trace₁ trace₂ = .ok () ↔
        branchToSelf.values 0 = branchToSelfRaw.values 0 ∧
        (∀ k ∈ Sampling.recorded ⟨1, true⟩ (min 2 2),
          branchToSelf.chainHash (k - 1) = branchToSelfRaw.chainHash (k - 1) ∧
          branchToSelf.values k = branchToSelfRaw.values k) ∧
        (2 = 2 → branchToSelf.chainHash 2 = branchToSelfRaw.chainHash 2 ∧
          branchToSelf.values 2 = branchToSelfRaw.values 2)) :=
  compare_records_iff _ _ rfl branchToSelf_ends branchToSelfRaw_ends (by decide)

theorem branchToSelf_faithful : branchToSelf.Faithful where
  hashMemory := fun _ _ _ => rfl
  reg        := by
    intro n i
    have hs : branchToSelf.stateAt n = branchToSelf.state := congrFun (Function.iterate_id n) _
    rw [hs]
    revert i
    decide

theorem branchToSelf_comparable : Comparable branchToSelf branchToSelfRaw :=
  ⟨rfl, rfl, branchToSelf_faithful, branchToSelf_faithful.hashMemory, branchToSelf_faithful.reg⟩

theorem compare_detects_branchToSelf :
    ∃ trace₁ trace₂, (∀ steps ≥ 2, branchToSelf.record ⟨1, true⟩ steps = some trace₁) ∧
      (∀ steps ≥ 2, branchToSelfRaw.record ⟨1, true⟩ steps = some trace₂) ∧
      ((∀ k ≤ 2, AgreeAt branchToSelf branchToSelfRaw k) →
        TraceComparator.compare plainEncoding plainEncoding trace₁ trace₂ = .ok ()) ∧
      (TraceComparator.compare plainEncoding plainEncoding trace₁ trace₂ = .ok () →
        (∀ k ≤ 2, AgreeAt branchToSelf branchToSelfRaw k) ∨
        (∃ k < 2, Collide Md5.digest (branchToSelf.chained k) (branchToSelfRaw.chained k)) ∨
        ∃ k ≤ 2, ∃ tracetype ∈ branchToSelf.tracetypes, Collide Md5.digest
          (branchToSelf.observed k tracetype) (branchToSelfRaw.observed k tracetype)) :=
  compare_detects _ _ branchToSelf_comparable branchToSelf_ends branchToSelfRaw_ends (by decide)

end Execution
