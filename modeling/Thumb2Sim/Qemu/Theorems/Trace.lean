import Mathlib.Logic.Function.Iterate
import Thumb2Sim.Lib.Md5
import Thumb2Sim.Qemu.Trace

open Ascii

-- What all recordings of an execution have in common.
structure Execution (σ : Type) where
  target     : TraceTarget σ
  md5        : Md5
  args       : TraceArgs
  tracetypes : List TraceType
  state      : σ
  maxInsnCnt : Int

namespace Execution

variable {σ : Type} (e : Execution σ)

-- The states of the execution and the hashes that chain them, by the number of executed
-- instructions.

def stateAt (n : Nat) : σ :=
  e.target.singlestep^[n] e.state

def pcAt (n : Nat) : Nat :=
  (e.target.getRegs <| e.stateAt n).r 15

def componentsAt (hash : Vector Byte 16) (n : Nat) : List (Vector Byte 16) :=
  hash :: e.tracetypes.map (TraceType.get e.target e.md5 e.args <| e.stateAt n)

def chainHash : Nat → Vector Byte 16
  | 0     => Vector.replicate 16 0
  | n + 1 => e.md5 <| (e.componentsAt (chainHash n) (n + 1)).flatMap Vector.toList

def point (hash : Vector Byte 16) (n : Nat) (didStep : Bool) : Tracepoint where
  executedInsns := n
  components    := e.componentsAt hash n
  stateHash     := e.md5 <| (e.componentsAt hash n).flatMap Vector.toList
  didStep       := didStep

-- The tracepoint behind a step still has the hash in front of the step.
def stepPoint (n : Nat) : Tracepoint :=
  e.point (e.chainHash <| n - 1) n true

def snapshot (n : Nat) : Tracepoint :=
  e.point (e.chainHash n) n false

-- The recording ends behind the step number `n`: PC has not changed, or it is the last step that is
-- allowed.
def Stops (n : Nat) : Prop :=
  2 ≤ n ∧ e.pcAt (n - 1) = e.pcAt n ∨ e.maxInsnCnt ≠ 0 ∧ e.maxInsnCnt ≤ n

instance : DecidablePred e.Stops :=
  fun _ => inferInstanceAs <| Decidable (_ ∨ _)

structure Ends (n : Nat) : Prop where
  pos   : 1 ≤ n
  stops : e.Stops n
  first : ∀ m < n, 1 ≤ m → ¬e.Stops m

def record (sampling : Sampling) (steps : Nat) : Option (List Tracepoint) :=
  TraceWriter.runTestcase e.target e.md5 e.args e.tracetypes e.maxInsnCnt sampling steps e.state

end Execution

namespace Sampling

variable (sampling : Sampling)

-- The step number `n` is recorded.
def Records (n : Nat) : Prop :=
  (n - 1 : Int) % sampling.decimation = 0 ∧ ¬sampling.minifyTracefile

instance : DecidablePred sampling.Records :=
  fun _ => inferInstanceAs <| Decidable (_ ∧ _)

def recorded : Nat → List Nat
  | 0     => []
  | n + 1 => recorded n ++ if sampling.Records (n + 1) then [n + 1] else []

theorem le_of_mem_recorded {m n : Nat} (h : m ∈ sampling.recorded n) : m ≤ n := by
  induction n
  case zero      => cases h
  case succ n hi =>
    cases List.mem_append.mp h
    case inl h => exact Nat.le_succ_of_le <| hi h
    case inr h =>
      split at h
      case isTrue  => exact Nat.le_of_eq <| List.mem_singleton.mp h
      case isFalse => cases h

end Sampling

namespace Execution

variable {σ : Type} {e : Execution σ} {sampling : Sampling} {n : Nat}

-- The recorder behind `n` steps.
def writer (e : Execution σ) (sampling : Sampling) (n : Nat) : TraceWriter where
  previousState     := e.chainHash n
  trace             := e.snapshot 0 :: (sampling.recorded n).map e.stepPoint
  executedInsnCount := n

theorem stateAt_succ (n : Nat) : e.stateAt (n + 1) = e.target.singlestep (e.stateAt n) :=
  Function.iterate_succ_apply' ..

theorem trace_writer_succ (n : Nat) : (e.writer sampling <| n + 1).trace =
    if sampling.Records (n + 1) then (e.writer sampling n).trace ++ [e.stepPoint <| n + 1]
    else (e.writer sampling n).trace := by
  simp only [writer, Sampling.recorded]
  split <;> simp

-- A step of the recording.
theorem recordState_writer (n : Nat) (b : Bool) (hb : b ↔ sampling.Records (n + 1)) :
    TraceWriter.recordState e.target e.md5 e.args e.tracetypes (e.writer sampling n) (e.stateAt n) b
      true = (e.writer sampling (n + 1), e.stateAt (n + 1)) := by
  have ht : (e.writer sampling <| n + 1).trace =
      if b then (e.writer sampling n).trace ++ [e.stepPoint <| n + 1]
      else (e.writer sampling n).trace := by
    simp only [trace_writer_succ, hb]
  have hw : e.writer sampling (n + 1) = {
      previousState     := e.chainHash (n + 1)
      trace             := (e.writer sampling <| n + 1).trace
      executedInsnCount := n + 1
    } := rfl
  rw [hw, ht]
  simp only [TraceWriter.recordState, if_true, ← stateAt_succ]
  rfl

-- The PC that the loop compares with behind `n` steps.
def lastPc (e : Execution σ) (n : Nat) : Option Nat :=
  if n = 0 then none else some (e.pcAt n)

-- What one more step of the loop does.
theorem recordLoop_succ (hd : sampling.decimation ≠ 0) (m steps : Nat) :
    TraceWriter.recordLoop e.target e.md5 e.args e.tracetypes e.maxInsnCnt sampling (steps + 1)
      (e.lastPc m) (e.writer sampling m) (e.stateAt m) =
    if e.Stops (m + 1) then
      some (e.writer sampling (m + 1), e.stateAt (m + 1))
    else
      TraceWriter.recordLoop e.target e.md5 e.args e.tracetypes e.maxInsnCnt sampling steps
        (e.lastPc <| m + 1) (e.writer sampling (m + 1)) (e.stateAt (m + 1)) := by
  have hr : decide ((e.writer sampling m).executedInsnCount % sampling.decimation = 0 ∧
      ¬sampling.minifyTracefile) ↔ sampling.Records (m + 1) := by
    simp [Sampling.Records, writer]
  have hp : e.lastPc m = some (e.pcAt (m + 1)) ↔ 2 ≤ m + 1 ∧ e.pcAt m = e.pcAt (m + 1) := by
    unfold lastPc
    split <;> simp <;> omega
  have hl : e.lastPc (m + 1) = some (e.pcAt (m + 1)) := rfl
  rw [TraceWriter.recordLoop, if_neg hd]
  simp only [recordState_writer m _ hr, hl]
  split
  case isTrue h  => exact (if_pos <| .inl <| hp.mp h).symm
  case isFalse h =>
    split
    case isTrue h' => exact (if_pos <| .inr h').symm
    case isFalse h' =>
      exact (if_neg <| not_or.mpr ⟨h ∘ hp.mpr, h'⟩).symm

theorem recordLoop_eq (h : e.Ends n) (hd : sampling.decimation ≠ 0) {m : Nat} (hm : m < n)
    {steps : Nat} (hs : n ≤ m + steps) :
    TraceWriter.recordLoop e.target e.md5 e.args e.tracetypes e.maxInsnCnt sampling steps
      (e.lastPc m) (e.writer sampling m) (e.stateAt m) =
    some (e.writer sampling n, e.stateAt n) := by
  induction steps generalizing m
  case zero          => omega
  case succ steps hi =>
    rw [recordLoop_succ hd]
    split
    case isTrue hst =>
      have : n = m + 1 := by
        by_contra hne
        exact h.first (m + 1) (by omega) (by omega) hst
      rw [this]
    case isFalse hst =>
      have : m + 1 ≠ n := by
        rintro rfl
        exact hst h.stops
      exact hi (by omega) (by omega)

theorem record_eq_bind (sampling : Sampling) (steps : Nat) : e.record sampling steps =
    (TraceWriter.recordLoop e.target e.md5 e.args e.tracetypes e.maxInsnCnt sampling steps
      (e.lastPc 0) (e.writer sampling 0) (e.stateAt 0)).bind fun (w, state) =>
        some (TraceWriter.recordState e.target e.md5 e.args e.tracetypes w state true false).1.trace
    :=
  rfl

-- The trace that is recorded of an execution with `n` steps.
def recording (e : Execution σ) (sampling : Sampling) (n : Nat) : List Tracepoint :=
  e.snapshot 0 :: (sampling.recorded n).map e.stepPoint ++ [e.snapshot n]

theorem record_eq {steps : Nat} (h : e.Ends n) (hd : sampling.decimation ≠ 0) (hs : n ≤ steps) :
    e.record sampling steps = some (e.recording sampling n) := by
  rw [record_eq_bind, recordLoop_eq h hd h.pos (by omega)]
  rfl

end Execution

namespace TraceReader

section

variable {m : Type → Type} [Monad m] {callback : FilePoint → FilePoint → m Unit}
  {pt₁ pt₂ : FilePoint} {pts₁ pts₂ : List FilePoint}

theorem align_nil_left : align callback [] pts₂ = pure () := by
  rw [align]

theorem align_nil_right : align callback pts₁ [] = pure () := by
  cases pts₁
  case nil  => exact align_nil_left
  case cons => simp only [align]

theorem align_cons_of_eq (h : pt₁.executedInsns = pt₂.executedInsns) :
    align callback (pt₁ :: pts₁) (pt₂ :: pts₂) =
      (callback pt₁ pt₂ >>= fun _ => align callback pts₁ pts₂) := by
  rw [align, if_pos h]

theorem align_cons_of_lt (h : pt₁.executedInsns < pt₂.executedInsns) :
    align callback (pt₁ :: pts₁) (pt₂ :: pts₂) = align callback pts₁ (pt₂ :: pts₂) := by
  rw [align, if_neg h.ne, if_pos h]

theorem align_cons_of_gt (h : pt₂.executedInsns < pt₁.executedInsns) :
    align callback (pt₁ :: pts₁) (pt₂ :: pts₂) = align callback (pt₁ :: pts₁) pts₂ := by
  rw [align, if_neg h.ne', if_neg h.not_gt]

end

variable {callback : FilePoint → FilePoint → Except TraceError Unit} {p q : Nat → FilePoint}
  {l₁ l₂ : List Nat} {pt₁ pt₂ : FilePoint} {pts₁ pts₂ : List FilePoint} {n : Nat}

-- Points that stand in front of the number `n` do not matter when points with the same number are
-- the same.
theorem align_append (hp : ∀ m, (p m).executedInsns = m) (hq : ∀ m, (q m).executedInsns = m)
    (hc : ∀ m, callback (p m) (q m) = .ok ()) (h₁ : ∀ m ∈ l₁, m < n) (h₂ : ∀ m ∈ l₂, m < n)
    (hn₁ : pt₁.executedInsns = n) (hn₂ : pt₂.executedInsns = n) :
    align callback (l₁.map p ++ pt₁ :: pts₁) (l₂.map q ++ pt₂ :: pts₂) =
      align callback (pt₁ :: pts₁) (pt₂ :: pts₂) := by
  induction l₁ generalizing l₂
  case nil =>
    induction l₂
    case nil => rfl
    case cons m l₂ hi =>
      obtain ⟨hm, h₂⟩ := List.forall_mem_cons.mp h₂
      have hlt : (q m).executedInsns < pt₁.executedInsns := by rwa [hq, hn₁]
      exact (align_cons_of_gt hlt).trans <| hi h₂
  case cons k l₁ hi₁ =>
    obtain ⟨hk, h₁⟩ := List.forall_mem_cons.mp h₁
    induction l₂
    case nil =>
      have hlt : (p k).executedInsns < pt₂.executedInsns := by rwa [hp, hn₂]
      exact (align_cons_of_lt hlt).trans <| hi₁ h₁ h₂
    case cons m l₂ hi₂ =>
      obtain ⟨hm, h₂'⟩ := List.forall_mem_cons.mp h₂
      rcases lt_trichotomy k m with hkm | rfl | hkm
      · have hlt : (p k).executedInsns < (q m).executedInsns := by rwa [hp, hq]
        exact (align_cons_of_lt hlt).trans <| hi₁ h₁ h₂
      · have he : (p k).executedInsns = (q k).executedInsns := by rw [hp, hq]
        refine (align_cons_of_eq he).trans ?_
        rw [hc]
        exact hi₁ h₁ h₂'
      · have hlt : (q m).executedInsns < (p k).executedInsns := by rwa [hp, hq]
        exact (align_cons_of_gt hlt).trans <| hi₂ h₂'

end TraceReader

-- At most 16 bytes are written as a short literal.
theorem TraceEncoding.getbytes_encode_of_le {encoding : TraceEncoding} {data : List Byte}
    (h : data.length ≤ 16) : encoding.getbytes (encoding.encode data) = some data := by
  rw [encode, if_pos h, getbytes, if_pos (List.prefix_append ..)]
  exact PyText.fromHex_ofBytes

namespace TraceComparator

variable {encoding₁ encoding₂ : TraceEncoding} {pt₁ pt₂ : Tracepoint}

theorem getbytes_encode (encoding : TraceEncoding) (v : Vector Byte 16) :
    encoding.getbytes (encoding.encode v.toList) = some v.toList :=
  TraceEncoding.getbytes_encode_of_le <| by simp

def filePoint (encoding : TraceEncoding) (pt : Tracepoint) : FilePoint :=
  ⟨pt.executedInsns, pt.components.map fun v => encoding.encode v.toList⟩

theorem mapM_getbytes (vs : List (Vector Byte 16 × Vector Byte 16)) :
    ((vs.map <| Prod.map (encoding₁.encode ·.toList) (encoding₂.encode ·.toList)).mapM
      fun (comp₁, comp₂) => do
        return (← encoding₁.getbytes comp₁, ← encoding₂.getbytes comp₂)) =
    some (vs.map <| Prod.map Vector.toList Vector.toList) := by
  induction vs
  case nil => rfl
  case cons v vs hi =>
    rw [List.map_cons, List.mapM_cons, hi]
    simp only [Prod.map, getbytes_encode]
    rfl

theorem compare_eq (trace₁ trace₂ : List Tracepoint) :
    TraceComparator.compare encoding₁ encoding₂ trace₁ trace₂ =
      TraceReader.align (compareTracepoint encoding₁ encoding₂) (trace₁.map (filePoint encoding₁))
        (trace₂.map (filePoint encoding₂)) :=
  rfl

-- Two points with as many components deviate when the components are not the same.
theorem compareTracepoint_eq (h : pt₁.components.length = pt₂.components.length) :
    compareTracepoint encoding₁ encoding₂ (filePoint encoding₁ pt₁) (filePoint encoding₂ pt₂) =
      if pt₁.components = pt₂.components then .ok () else .error .deviation := by
  have hz : pt₁.components = pt₂.components ↔
      ∀ p ∈ pt₁.components.zip pt₂.components, p.1 = p.2 := by
    rw [← List.forall₂_eq_eq_eq, List.forall₂_iff_zip]
    simp [h]
  rw [compareTracepoint, filePoint, filePoint, List.zip_map, mapM_getbytes]
  simp only [List.any_map]
  split
  case isTrue ha =>
    obtain ⟨p, hp, hne⟩ := List.any_eq_true.mp ha
    have hn : pt₁.components ≠ pt₂.components := by
      intro he
      simp [hz.mp he p hp] at hne
    rw [if_neg hn]
  case isFalse ha =>
    have he : pt₁.components = pt₂.components := by
      refine hz.mpr fun p hp => ?_
      by_contra hne
      refine ha <| List.any_eq_true.mpr ⟨p, hp, ?_⟩
      simpa [Vector.toList_inj] using hne
    rw [if_pos he]

end TraceComparator

namespace Execution

variable {σ : Type} {e : Execution σ} {sampling sampling₁ sampling₂ : Sampling} {n : Nat}
  {encoding₁ encoding₂ : TraceEncoding}

open TraceReader TraceComparator

-- The points of a trace with the number of the last step.
def lastPoints (e : Execution σ) (sampling : Sampling) (n : Nat) : List Tracepoint :=
  if sampling.Records n then [e.stepPoint n, e.snapshot n] else [e.snapshot n]

theorem components_length (hash : Vector Byte 16) (n : Nat) (b : Bool) :
    (e.point hash n b).components.length = e.tracetypes.length + 1 := by
  simp [point, componentsAt]

-- Points with the same number differ in the hash only.
theorem compareTracepoint_point {hash₁ hash₂ : Vector Byte 16} {b₁ b₂ : Bool} :
    compareTracepoint encoding₁ encoding₂ (filePoint encoding₁ <| e.point hash₁ n b₁)
      (filePoint encoding₂ <| e.point hash₂ n b₂) =
    if hash₁ = hash₂ then .ok () else .error .deviation := by
  rw [compareTracepoint_eq <| by rw [components_length, components_length]]
  simp [point, componentsAt]

theorem align_point {hash₁ hash₂ : Vector Byte 16} {b₁ b₂ : Bool} {pts₁ pts₂ : List FilePoint} :
    align (compareTracepoint encoding₁ encoding₂) (filePoint encoding₁ (e.point hash₁ n b₁) :: pts₁)
      (filePoint encoding₂ (e.point hash₂ n b₂) :: pts₂) =
    if hash₁ = hash₂ then align (compareTracepoint encoding₁ encoding₂) pts₁ pts₂
    else .error .deviation := by
  rw [align_cons_of_eq (show n = n from rfl), compareTracepoint_point]
  split
  case isTrue  => rfl
  case isFalse => rfl

theorem recording_succ : e.recording sampling (n + 1) =
    e.snapshot 0 :: (sampling.recorded n).map e.stepPoint ++ e.lastPoints sampling (n + 1) := by
  simp only [recording, Sampling.recorded, lastPoints]
  split <;> simp

-- Everything in front of the last step compares as equal.
theorem compare_recording_succ :
    TraceComparator.compare encoding₁ encoding₂ (e.recording sampling₁ <| n + 1)
      (e.recording sampling₂ <| n + 1) =
    TraceComparator.compare encoding₁ encoding₂ (e.lastPoints sampling₁ (n + 1))
      (e.lastPoints sampling₂ (n + 1)) := by
  have hl : ∀ sampling : Sampling, ∃ pt pts, e.lastPoints sampling (n + 1) = pt :: pts ∧
      pt.executedInsns = n + 1 := by
    intro sampling
    unfold lastPoints
    split
    case isTrue  => exact ⟨_, _, rfl, rfl⟩
    case isFalse => exact ⟨_, _, rfl, rfl⟩
  obtain ⟨pt₁, pts₁, h₁, hn₁⟩ := hl sampling₁
  obtain ⟨pt₂, pts₂, h₂, hn₂⟩ := hl sampling₂
  have hr (sampling : Sampling) : ∀ m ∈ sampling.recorded n, m < n + 1 :=
    fun _ hm => Nat.lt_succ_of_le <| sampling.le_of_mem_recorded hm
  have hs (m : Nat) : compareTracepoint encoding₁ encoding₂
      (filePoint encoding₁ <| e.stepPoint m) (filePoint encoding₂ <| e.stepPoint m) = .ok () :=
    compareTracepoint_point.trans <| if_pos rfl
  rw [recording_succ, recording_succ, h₁, h₂]
  simp only [compare_eq, List.cons_append, List.map_cons, List.map_append, List.map_map]
  refine align_point.trans <| (if_pos rfl).trans ?_
  exact align_append (fun _ => rfl) (fun _ => rfl) hs (hr _) (hr _) hn₁ hn₂

-- The points of the last step compare as equal unless the step is compared with the final state.
theorem compare_lastPoints :
    TraceComparator.compare encoding₁ encoding₂ (e.lastPoints sampling₁ n)
      (e.lastPoints sampling₂ n) = .ok () ↔
    (sampling₁.Records n ↔ sampling₂.Records n) ∨ e.chainHash n = e.chainHash (n - 1) := by
  have hr (pts) : align (compareTracepoint encoding₁ encoding₂) pts [] = .ok () :=
    align_nil_right
  have hl (pts) : align (compareTracepoint encoding₁ encoding₂) [] pts = .ok () := by
    rw [align]
    rfl
  rw [compare_eq]
  by_cases h₁ : sampling₁.Records n
  all_goals by_cases h₂ : sampling₂.Records n
  all_goals
    simp only [lastPoints, h₁, h₂, if_true, if_false, List.map_cons, List.map_nil, stepPoint,
      snapshot, align_point, hl, hr]
  · simp
  · simp [eq_comm]
  · simp
  · simp

theorem compare_recording (h : 1 ≤ n) :
    TraceComparator.compare encoding₁ encoding₂ (e.recording sampling₁ n)
      (e.recording sampling₂ n) = .ok () ↔
    (sampling₁.Records n ↔ sampling₂.Records n) ∨ e.chainHash n = e.chainHash (n - 1) := by
  cases n
  case zero   => exact absurd h (by decide)
  case succ n => exact compare_recording_succ (e := e) ▸ compare_lastPoints

-- Two recordings of an execution with `n` steps compare as equal when both or none of them have the
-- last step in the trace. Otherwise the last step of one trace is compared with the final state in
-- the other one, and only the latter has the hash behind the step in it.
theorem compare_record_eq_ok_iff (encoding₁ encoding₂ : TraceEncoding) (h : e.Ends n)
    (h₁ : sampling₁.decimation ≠ 0) (h₂ : sampling₂.decimation ≠ 0) :
    ∃ trace₁ trace₂, (∀ steps ≥ n, e.record sampling₁ steps = some trace₁) ∧
      (∀ steps ≥ n, e.record sampling₂ steps = some trace₂) ∧
      (TraceComparator.compare encoding₁ encoding₂ trace₁ trace₂ = .ok () ↔
        (sampling₁.Records n ↔ sampling₂.Records n) ∨ e.chainHash n = e.chainHash (n - 1)) :=
  ⟨_, _, fun _ => record_eq h h₁, fun _ => record_eq h h₂, compare_recording h.pos⟩

-- A target at a branch to itself. Its state does not change.
def branchToSelf : Execution RegDict where
  target     := {
    singlestep := id
    getRegs    := id
    readMemory := fun _ _ length => List.replicate length 0
    hashMemory := fun _ _ length => Md5.digest <| List.replicate length 0
  }
  md5        := Md5.digest
  args       := { includeRawData := false, emulator := .t2sim }
  tracetypes := [.registerHash]
  state      := { r := fun i => if i = 15 then 0x8000 else 0, psr := 0x01000000 }
  maxInsnCnt := 0

theorem branchToSelf_ends : branchToSelf.Ends 2 where
  pos   := by decide
  stops := .inl ⟨le_rfl, rfl⟩
  first := by
    intro m hm hm₁
    obtain rfl : m = 1 := by omega
    rintro (⟨h, _⟩ | ⟨h, _⟩)
    · exact absurd h (by decide)
    · exact h rfl

-- The components have 16 bytes: it does not matter what is done to more of them.
def plainEncoding : TraceEncoding where
  encodeLong := id
  decodeLong := some

theorem compare_record_eq_ok_iff_branchToSelf :
    ∃ trace₁ trace₂, (∀ steps ≥ 2, branchToSelf.record ⟨1, false⟩ steps = some trace₁) ∧
      (∀ steps ≥ 2, branchToSelf.record ⟨2, false⟩ steps = some trace₂) ∧
      (TraceComparator.compare plainEncoding plainEncoding trace₁ trace₂ = .ok () ↔
        (Sampling.Records ⟨1, false⟩ 2 ↔ Sampling.Records ⟨2, false⟩ 2) ∨
          branchToSelf.chainHash 2 = branchToSelf.chainHash 1) :=
  compare_record_eq_ok_iff _ _ branchToSelf_ends (by decide) (by decide)

theorem branchToSelf_chainHash_ne : branchToSelf.chainHash 2 ≠ branchToSelf.chainHash 1 := by
  decide +kernel

-- With and without the option `--minify-tracefile`, the traces deviate.
theorem not_forall_compare_record :
    ¬∀ (σ : Type) (e : Execution σ) (encoding₁ encoding₂ : TraceEncoding)
      (sampling₁ sampling₂ : Sampling) (steps : Nat) (trace₁ trace₂ : List Tracepoint),
      e.record sampling₁ steps = some trace₁ → e.record sampling₂ steps = some trace₂ →
      TraceComparator.compare encoding₁ encoding₂ trace₁ trace₂ = .ok () := by
  intro h
  have hc := h RegDict branchToSelf plainEncoding plainEncoding ⟨1, false⟩ ⟨1, true⟩ 2 _ _
    (record_eq branchToSelf_ends (by decide) le_rfl)
    (record_eq branchToSelf_ends (by decide) le_rfl)
  cases (compare_recording <| by decide).mp hc
  case inl hr => exact absurd hr (by decide)
  case inr hh => exact branchToSelf_chainHash_ne hh

end Execution
