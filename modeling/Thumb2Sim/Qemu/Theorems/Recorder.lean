import Thumb2Sim.AddressSpace.Theorems.Flat
import Thumb2Sim.Execution.Theorems.Buffers
import Thumb2Sim.Lib.Simulation
import Thumb2Sim.Qemu.Recorder
import Thumb2Sim.Qemu.Theorems.Trace
import Thumb2Sim.Qemu.Theorems.Transport

open Ascii Program

-- A recording as the recorder has it.

def Tracepoint.recorded (pt : Tracepoint) : RecordedPoint where
  executedInsns := pt.executedInsns
  components    := pt.components.map Vector.toList
  stateHash     := pt.stateHash.toList
  didStep       := pt.didStep

def TraceWriter.recorder (w : TraceWriter) : Recorder where
  previousState     := w.previousState.toList
  trace             := w.trace.map Tracepoint.recorded
  executedInsnCount := w.executedInsnCount

theorem TraceWriter.recorder_init : TraceWriter.init.recorder = Recorder.init :=
  rfl

section

variable {σ τ ε : Type} {dbg : Debugger τ ε} {target : TraceTarget σ} {tracetypes : List TraceType}
  {R : Nat → σ → τ → Prop} {md5 : Md5} {args : TraceArgs} {maxInsnCnt : Int} {sampling : Sampling}

-- The requests have the results that they have for the target, and `R n` relates the states of the
-- target for which `n` more steps can be taken.
structure Debugger.Serves (dbg : Debugger τ ε) (target : TraceTarget σ)
    (tracetypes : List TraceType) (R : Nat → σ → τ → Prop) : Prop where
  singlestep : ∀ n, Simulates (R (n + 1)) (R n) (fun s => ((), target.singlestep s)) dbg.singlestep
  getRegs    : ∀ n, Observes (R n) target.getRegs dbg.getRegs
  readMemory : ∀ n address length, TraceType.memoryHash address length ∈ tracetypes →
    Observes (R n) (fun s => target.readMemory s address length) (dbg.readMemory address length)
  hashMemory : ∀ n address length, TraceType.memoryHash address length ∈ tracetypes →
    Observes (R n) (fun s => (target.hashMemory s address length).toList)
      (dbg.hashMemory address length)

namespace Debugger.Serves

variable (h : dbg.Serves target tracetypes R) (md5 args)
include h

theorem request {tracetype : TraceType} (ht : tracetype ∈ tracetypes) (n : Nat) :
    Observes (R n) (fun s => (tracetype.get target md5 args s).toList)
      (Recorder.request dbg md5 args tracetype) := by
  cases tracetype
  case registerHash => exact (h.getRegs n).bind fun regs => .pure _
  case memoryHash address length =>
    by_cases hr : args.includeRawData ∨ args.emulator = .qemu
    case pos =>
      simp only [TraceType.get, Recorder.request, if_pos hr]
      exact (h.readMemory n address length ht).bind fun data => .pure _
    case neg =>
      simp only [TraceType.get, Recorder.request, if_neg hr]
      exact h.hashMemory n address length ht

-- The recorder and the writer record the same of a state, and both of them do so behind the step.
theorem recordState (w : TraceWriter) (appendToTrace doStep : Bool) (n : Nat) :
    Simulates (R <| if doStep then n + 1 else n) (R n)
      (fun s => (w.recordState target md5 args tracetypes s appendToTrace doStep).map
        TraceWriter.recorder id)
      (Recorder.recordState dbg md5 args tracetypes w.recorder appendToTrace doStep) := by
  have hs : Simulates (R <| if doStep then n + 1 else n) (R n)
      (fun s => ((), if doStep then target.singlestep s else s))
      (Program.when doStep dbg.singlestep) := by
    cases doStep
    case false => exact Observes.pure ()
    case true  => exact h.singlestep n
  have hv : Observes (R n) (fun s => tracetypes.map fun t => (t.get target md5 args s).toList)
      (tracetypes.mapM <| Recorder.request dbg md5 args) :=
    .mapM fun t ht => h.request md5 args ht n
  intro s t hr
  obtain ⟨t', hm, hr'⟩ := hs.bind (fun _ => hv.bind fun values => .pure _) s t hr
  refine ⟨t', hm.trans ?_, hr'⟩
  cases doStep <;> cases appendToTrace
  all_goals
    simp [TraceWriter.recordState, TraceWriter.recorder, Tracepoint.recorded, List.flatMap_def,
      Function.comp_def]

-- The recorder takes as many steps as the writer.
theorem recordLoop (w : TraceWriter) {steps : Nat} {lastPc : Option Nat} {s : σ} {t : τ}
    (hr : R steps s t) :
    ∃ t', Recorder.recordLoop dbg md5 args tracetypes maxInsnCnt sampling steps lastPc
        w.recorder t =
          .ok ((w.recordLoop target md5 args tracetypes maxInsnCnt sampling steps lastPc s).map
            fun p => p.1.recorder, t') ∧
      ∀ p, w.recordLoop target md5 args tracetypes maxInsnCnt sampling steps lastPc s = some p →
        ∃ n, R n p.2 t' := by
  induction steps generalizing lastPc w s t
  case zero          => exact ⟨t, rfl, fun _ hp => by cases hp⟩
  case succ steps hi =>
    rw [Recorder.recordLoop, TraceWriter.recordLoop]
    split
    case isTrue  => exact ⟨t, rfl, fun _ hp => by cases hp⟩
    case isFalse =>
      obtain ⟨b, hb⟩ : ∃ b, b = decide (w.executedInsnCount % sampling.decimation = 0 ∧
          ¬sampling.minifyTracefile) := ⟨_, rfl⟩
      have hb' : b = decide (w.recorder.executedInsnCount % sampling.decimation = 0 ∧
          ¬sampling.minifyTracefile) := hb
      obtain ⟨t₁, h₁, hr₁⟩ := h.recordState md5 args w b true steps s t hr
      obtain ⟨t₂, h₂, hr₂⟩ := h.getRegs steps _ _ hr₁
      beta_reduce at h₁ hr₁ h₂ hr₂
      dsimp only
      rw [← hb, ← hb']
      generalize w.recordState target md5 args tracetypes s b true = p at h₁ hr₁ h₂ hr₂ ⊢
      rw [bind_of_ok h₁, bind_of_ok h₂]
      dsimp only [Prod.map_fst, Prod.map_snd, id_eq]
      split
      case isTrue => exact ⟨t₂, rfl, fun _ hp => ⟨steps, Option.some.inj hp ▸ hr₂⟩⟩
      case isFalse =>
        by_cases hm : maxInsnCnt ≠ 0 ∧ maxInsnCnt ≤ p.1.executedInsnCount
        case pos =>
          rw [if_pos hm]
          exact ⟨t₂, congrFun (if_pos hm) t₂, fun _ hp => ⟨steps, Option.some.inj hp ▸ hr₂⟩⟩
        case neg =>
          rw [if_neg hm]
          obtain ⟨t₃, h₃, hr₃⟩ := hi _ hr₂
          exact ⟨t₃, (congrFun (if_neg hm) t₂).trans h₃, hr₃⟩

-- The writer computes what comes out of the recording.
theorem runTestcase {steps : Nat} {s : σ} {t : τ} (hr : R steps s t) :
    ∃ t', Recorder.runTestcase dbg md5 args tracetypes maxInsnCnt sampling steps t =
      .ok ((TraceWriter.runTestcase target md5 args tracetypes maxInsnCnt sampling steps s).map
        fun trace => trace.map Tracepoint.recorded, t') := by
  have ⟨t₁, h₁, hr₁⟩ := h.recordState md5 args .init true false steps s t hr
  beta_reduce at h₁ hr₁
  rw [Recorder.runTestcase, TraceWriter.runTestcase, ← TraceWriter.recorder_init, bind_of_ok h₁]
  generalize TraceWriter.recordState target md5 args tracetypes .init s true false = p at hr₁ ⊢
  have ⟨t₂, h₂, hr₂⟩ : ∃ t₂, Recorder.recordLoop dbg md5 args tracetypes maxInsnCnt sampling steps
      none p.1.recorder t₁ = .ok (_, t₂) ∧ _ := h.recordLoop md5 args p.1 hr₁
  dsimp only [Prod.map_fst, Prod.map_snd, id_eq] at h₂ hr₂ ⊢
  rw [bind_of_ok h₂]
  cases hp : p.1.recordLoop target md5 args tracetypes maxInsnCnt sampling steps none p.2
  case none   => exact ⟨t₂, rfl⟩
  case some q =>
    obtain ⟨n, hn⟩ := hr₂ q hp
    have ⟨t₃, h₃, _⟩ := h.recordState md5 args q.1 true false n _ _ hn
    exact ⟨t₃, bind_of_ok h₃⟩

end Debugger.Serves

end

-- The memory as the guest reads it.
def EmuCtx.guestBytes {U : Type} (ctx : EmuCtx U) (startAddress length : Nat) : List Byte :=
  (List.range length).map fun i =>
    (ctx.addrSpace.read8 ctx.memory <| BitVec.ofNat 32 <| startAddress + i).toOption.getD 0

-- The emulator without a connection in between. It stays where a step is undefined.
def emulatorTarget {U : Type} (host : Callbacks U) (md5 : Md5) : TraceTarget (EmuCtx U) where
  singlestep ctx                     := resultOr ctx <| cpuSingleStep host ctx
  getRegs ctx                        := ⟨fun i => (ctx.cpu.reg i).toNat, ctx.cpu.psr.toNat⟩
  readMemory                         := EmuCtx.guestBytes
  hashMemory ctx startAddress length := md5 <| ctx.guestBytes startAddress length

section

variable {U : Type} {host : Callbacks U} {md5 : Md5} {stale : Nat → List Byte} {ctx ctx' : EmuCtx U}
  {slice : AddressSlice} {startAddress length : Nat} {tracetypes : List TraceType}

theorem EmuCtx.MapsTo.guestBytes (h : ctx.MapsTo slice startAddress length) :
    ctx.guestBytes startAddress length = (slice.cells ctx.memory startAddress).take length := by
  by_cases hl : 0 < length
  case neg => rw [Nat.eq_zero_of_not_pos hl]; rfl
  case pos =>
    obtain ⟨p, -, hb⟩ := h.load hl
    have hn := Heap.load_length hb
    have hl' : (BitVec.ofNat 32 length).toNat = length := by
      have ⟨_, he⟩ := h.bounds hl
      have hs := slice.endAddr.isLt
      rw [BitVec.toNat_ofNat]
      omega
    rw [hl'] at hn
    refine List.ext_getElem (by simp [EmuCtx.guestBytes, hn]) fun i hi hi' => ?_
    have hi : i < length := hn ▸ hi'
    have hp : ctx.MapsTo slice (startAddress + i) 1 := h.part hi
    obtain ⟨q, hq, hc⟩ := hp.load Nat.one_pos
    rw [Addrspace.memptr, hp.getslice_range Nat.one_pos] at hq
    cases hq
    rw [h.cells_add hi, List.drop_eq_getElem_cons (by grind)] at hc
    simp only [EmuCtx.guestBytes, List.getElem_map, List.getElem_range, List.getElem_take,
      Addrspace.read8_of_load (h.getslice i hi) hc]
    rfl

theorem EmuCtx.MapsTo.of_sameLayout (h : ctx.MapsTo slice startAddress length)
    (hl : SameLayout ctx ctx') : ctx'.MapsTo slice startAddress length where
  getslice i hi := hl.addrSpace ▸ h.getslice i hi
  noWrap        := h.noWrap
  valid         := hl.valid_iff _ _ |>.mpr h.valid

-- The server is in the state `ctx`, from which `n` more steps are defined, and it has the memory
-- that is asked for.
structure Stands (host : Callbacks U) (tracetypes : List TraceType) (n : Nat) (ctx : EmuCtx U)
    (t : Target U) : Prop where
  eq     : t.ctx = ctx
  steps  : ∀ k < n, (cpuSingleStep host <| trace (cpuSingleStep host) ctx k).isOk
  mapped : ∀ startAddress length, TraceType.memoryHash startAddress length ∈ tracetypes →
    0 < length ∧ ∃ slice, ctx.MapsTo slice startAddress length

theorem gdbHandleCommand_step (h : cpuSingleStep host ctx = .ok ctx') :
    gdbHandleCommand host md5 (ofString "vCont;s:1;c") ctx =
      .ok (.reply (txFrame []) true, ctx') := by
  have hg : ofString "vCont;s:1;c" ≠ ofString "g" := by decide
  have hm : (ofString "vCont;s:1;c").head? ≠ some (ofChar 'm') := by decide
  simp only [gdbHandleCommand, if_neg hg, if_neg hm, if_true, h]
  rfl

theorem singlestep_eq {reads : Nat} (h : cpuSingleStep host ctx = .ok ctx') :
    DebuggingProtocol.singlestep host md5 stale ⟨ctx, reads⟩ = .ok ((), ⟨ctx', reads + 1⟩) := by
  have hc : IsRequest <| ofString "vCont;s:1;c" := ⟨by decide, by decide⟩
  have hg : gdbHandleCommand host md5 (ofString "vCont;s:1;c") ctx = _ := gdbHandleCommand_step h
  have ⟨_, hs⟩ := sendCmd_eq (t := ⟨ctx, reads⟩) stale hc List.not_mem_nil hg
  rw [DebuggingProtocol.singlestep, bind_of_ok hs]
  rfl

theorem debugger_serves (hh : host.KeepLayout) :
    (ARMDebuggingProtocol.debugger host md5 stale).Serves (emulatorTarget host md5) tracetypes
      (Stands host tracetypes) where
  singlestep := by
    rintro n _ ⟨ctx, reads⟩ ⟨rfl, hs, hm⟩
    have hr : cpuSingleStep host ctx = .ok (resultOr ctx <| cpuSingleStep host ctx) :=
      eq_resultOr <| hs 0 (Nat.zero_lt_succ n)
    refine ⟨_, singlestep_eq hr, rfl, fun k hk => ?_, fun a l ha => ?_⟩
    case refine_1 => exact trace_succ' ctx k ▸ hs (k + 1) (Nat.succ_lt_succ hk)
    case refine_2 =>
      obtain ⟨hl, slice, hx⟩ := hm a l ha
      exact ⟨hl, slice, hx.of_sameLayout <| sameLayout_step hh hr⟩
  getRegs := by
    rintro n _ t ⟨rfl, hs, hm⟩
    obtain ⟨reads, ht⟩ := returns_getRegs (t := t)
    exact ⟨_, ht, rfl, hs, hm⟩
  readMemory := by
    rintro n a l ha _ t ⟨rfl, hs, hm⟩
    obtain ⟨hl, slice, hx⟩ := hm a l ha
    obtain ⟨reads, ht⟩ := returns_readMemory host md5 stale hx hl
    rw [← hx.guestBytes] at ht
    exact ⟨_, ht, rfl, hs, hm⟩
  hashMemory := by
    rintro n a l ha _ t ⟨rfl, hs, hm⟩
    obtain ⟨hl, slice, hx⟩ := hm a l ha
    obtain ⟨reads, ht⟩ := returns_hashMemory host md5 stale hx hl
    rw [← hx.guestBytes] at ht
    exact ⟨_, ht, rfl, hs, hm⟩

-- Memory that is hashed on the server gives the same trace as memory that is transferred.
theorem runTestcase_args (args args' : TraceArgs) (tracetypes : List TraceType) (maxInsnCnt : Int)
    (sampling : Sampling) (steps : Nat) (ctx : EmuCtx U) :
    TraceWriter.runTestcase (emulatorTarget host md5) md5 args tracetypes maxInsnCnt sampling steps
      ctx =
    TraceWriter.runTestcase (emulatorTarget host md5) md5 args' tracetypes maxInsnCnt sampling steps
      ctx := by
  have hg : TraceType.get (emulatorTarget host md5) md5 args =
      TraceType.get (emulatorTarget host md5) md5 args' := by
    funext ctx tracetype
    cases tracetype
    case registerHash => rfl
    case memoryHash   => exact (ite_self _).trans (ite_self _).symm
  have hs : TraceWriter.recordState (emulatorTarget host md5) md5 args tracetypes =
      TraceWriter.recordState (emulatorTarget host md5) md5 args' tracetypes := by
    funext w ctx appendToTrace doStep
    simp only [TraceWriter.recordState, hg]
  have hl : ∀ steps lastPc w ctx,
      TraceWriter.recordLoop (emulatorTarget host md5) md5 args tracetypes maxInsnCnt sampling steps
        lastPc w ctx =
      TraceWriter.recordLoop (emulatorTarget host md5) md5 args' tracetypes maxInsnCnt sampling
        steps lastPc w ctx := by
    intro steps
    induction steps
    case zero          => exact fun _ _ _ => rfl
    case succ steps hi => intro _ _ _; simp only [TraceWriter.recordLoop, hs, hi]
  simp only [TraceWriter.runTestcase, hs, hl]

end

-- More steps than the recording takes make no difference.

namespace Recorder

variable {τ ε : Type} {dbg : Debugger τ ε} {tracetypes : List TraceType} {md5 : Md5}
  {args : TraceArgs} {maxInsnCnt : Int} {sampling : Sampling} {steps steps' : Nat} {t t' : τ}

theorem recordLoop_succ {lastPc : Option Nat} {w w' : Recorder}
    (h : recordLoop dbg md5 args tracetypes maxInsnCnt sampling steps lastPc w t =
      .ok (some w', t')) :
    recordLoop dbg md5 args tracetypes maxInsnCnt sampling (steps + 1) lastPc w t =
      .ok (some w', t') := by
  induction steps generalizing lastPc w t
  case zero          => cases h
  case succ steps hi =>
    rw [recordLoop] at h ⊢
    split at h
    case isTrue     => cases h
    case isFalse hd =>
      rw [if_neg hd]
      obtain ⟨w₁, t₁, h₁, h⟩ := bind_ok_iff.mp h
      obtain ⟨regs, t₂, h₂, h⟩ := bind_ok_iff.mp h
      rw [bind_of_ok h₁, bind_of_ok h₂]
      split at h
      case isTrue hp  => rw [if_pos hp]; exact h
      case isFalse hp =>
        rw [if_neg hp]
        split at h
        case isTrue hm  => rw [if_pos hm]; exact h
        case isFalse hm => rw [if_neg hm]; exact hi h

theorem runTestcase_succ {trace : List RecordedPoint}
    (h : runTestcase dbg md5 args tracetypes maxInsnCnt sampling steps t = .ok (some trace, t')) :
    runTestcase dbg md5 args tracetypes maxInsnCnt sampling (steps + 1) t =
      .ok (some trace, t') := by
  obtain ⟨w, t₁, h₁, h⟩ := bind_ok_iff.mp h
  obtain ⟨w', t₂, h₂, h⟩ := bind_ok_iff.mp h
  cases w'
  case none    => cases h
  case some w' =>
    rw [runTestcase, bind_of_ok h₁, bind_of_ok <| recordLoop_succ h₂]
    exact h

theorem runTestcase_of_le {trace : List RecordedPoint} (hs : steps ≤ steps')
    (h : runTestcase dbg md5 args tracetypes maxInsnCnt sampling steps t = .ok (some trace, t')) :
    runTestcase dbg md5 args tracetypes maxInsnCnt sampling steps' t = .ok (some trace, t') := by
  induction hs
  case refl      => exact h
  case step _ hi => exact runTestcase_succ hi

end Recorder

-- The execution of a program by the emulator.
def emulatorExecution {U : Type} (host : Callbacks U) (md5 : Md5) (args : TraceArgs)
    (tracetypes : List TraceType) (maxInsnCnt : Int) (ctx : EmuCtx U) : Execution (EmuCtx U) where
  target     := emulatorTarget host md5
  md5        := md5
  args       := args
  tracetypes := tracetypes
  state      := ctx
  maxInsnCnt := maxInsnCnt

-- What is recorded over the connection is the execution itself, whether or not memory is
-- transferred. The steps of the execution have to be defined, and its memory has to be mapped.
theorem runTestcase_debugger {U : Type} {host : Callbacks U} (hh : host.KeepLayout) (md5 : Md5)
    (stale : Nat → List Byte) (args args' : TraceArgs) {tracetypes : List TraceType}
    {maxInsnCnt : Int} {sampling : Sampling} {ctx : EmuCtx U} {n : Nat}
    (he : (emulatorExecution host md5 args tracetypes maxInsnCnt ctx).Ends n)
    (hd : sampling.decimation ≠ 0)
    (hs : ∀ k < n, (cpuSingleStep host <| trace (cpuSingleStep host) ctx k).isOk)
    (hm : ∀ startAddress length, TraceType.memoryHash startAddress length ∈ tracetypes →
      0 < length ∧ ∃ slice, ctx.MapsTo slice startAddress length) (reads : Nat) :
    ∃ t', ∀ steps ≥ n, Recorder.runTestcase (ARMDebuggingProtocol.debugger host md5 stale) md5 args'
        tracetypes maxInsnCnt sampling steps ⟨ctx, reads⟩ =
      .ok (some <| ((emulatorExecution host md5 args tracetypes maxInsnCnt ctx).recording sampling
        n).map Tracepoint.recorded, t') := by
  have hr : Stands host tracetypes n ctx ⟨ctx, reads⟩ := ⟨rfl, hs, hm⟩
  have ⟨t', ht⟩ : ∃ t', Recorder.runTestcase (ARMDebuggingProtocol.debugger host md5 stale) md5
      args' tracetypes maxInsnCnt sampling n ⟨ctx, reads⟩ = .ok (_, t') :=
    (debugger_serves hh).runTestcase md5 args' hr
  refine ⟨t', fun steps hn => Recorder.runTestcase_of_le hn <| ht.trans ?_⟩
  have hx : TraceWriter.runTestcase (emulatorTarget host md5) md5 args tracetypes maxInsnCnt
      sampling n ctx = some _ := Execution.record_eq he hd le_rfl
  rw [runTestcase_args args' args, hx]
  rfl

-- A branch to itself. The contents of the ROM are transferred by one recording, and hashed by the
-- server for another one.
theorem runTestcase_debugger_branch :
    let args (includeRawData : Bool) : TraceArgs := { includeRawData, emulator := .t2sim }
    let ctx := smallMachine [0xfe, 0xe7]
    ∃ t', ∀ steps ≥ 2, Recorder.runTestcase
        (ARMDebuggingProtocol.debugger noHost Md5.digest fun _ => []) Md5.digest (args true)
        [.registerHash, .memoryHash 0 8] 0 ⟨1, false⟩ steps ⟨ctx, 0⟩ =
      .ok (some <| ((emulatorExecution noHost Md5.digest (args false)
        [.registerHash, .memoryHash 0 8] 0 ctx).recording ⟨1, false⟩ 2).map Tracepoint.recorded,
        t') := by
  intro args ctx
  let hw := { defaultParameters with romSizeBytes := 32, ramSizeBytes := 16 }
  refine runTestcase_debugger noHost_keepLayout _ _ _ _ ?_ (by decide) (by decide +kernel) ?_ 0
  case refine_1 =>
    have hp : ∀ m ≤ 2, (emulatorExecution noHost Md5.digest (args false)
        [.registerHash, .memoryHash 0 8] 0 ctx).pcAt m = 0 := by decide +kernel
    refine ⟨by decide, .inl ⟨le_rfl, (hp 1 (by decide)).trans (hp 2 le_rfl).symm⟩, ?_⟩
    rintro m hm hm₁ (⟨h, _⟩ | ⟨h, _⟩)
    · omega
    · exact h rfl
  case refine_2 =>
    intro startAddress length h
    obtain h | h := List.mem_cons.mp h
    · cases h
    · obtain ⟨rfl, rfl⟩ := TraceType.memoryHash.inj <| List.mem_singleton.mp h
      exact ⟨by decide, hw.rom.slice, by decide, by decide, by decide⟩
