import Thumb2Sim.Qemu.Theorems.Trace

open Ascii

namespace TraceEncoding

variable {encoding : TraceEncoding} {zlib : Zlib} {args : FormatArgs} {data : List Byte}

theorem getbytes_encode_of_lt (h : 16 < data.length)
    (hp : ¬ofString ">" <+: encoding.encodeLong data) :
    encoding.getbytes (encoding.encode data) = encoding.decodeLong (encoding.encodeLong data) := by
  rw [encode, if_neg <| Nat.not_le_of_lt h, getbytes, if_neg hp]

-- No digit looks like the mark of a short literal.
theorem not_prefix_encodeLong (zlib : Zlib) (args : FormatArgs) (data : List Byte) :
    ¬ofString ">" <+: args.encodeLong zlib data := by
  intro ⟨t, ht⟩
  have hm : ¬Base64.IsDigit (ofChar '>') ∧ ¬Hex.IsDigit (ofChar '>') := by decide
  rw [FormatArgs.encodeLong] at ht
  cases hf : args.binFormat <;> rw [hf] at ht
  case b64 => exact hm.left <| Base64.isDigit_head? <| congrArg List.head? ht |>.symm
  case hex =>
    have hh : ofChar '>' ∈ ofString ">" ++ t := List.mem_cons_self
    exact hm.right <| Hex.isDigit_of_mem_ofBytes <| ht ▸ hh

theorem decodeLong_encodeLong (hz : ∀ data, zlib.decompress (zlib.compress data) = some data) :
    args.fileMeta.decodeLong zlib (args.encodeLong zlib data) = some data := by
  obtain ⟨format, noCompression⟩ := args
  cases format <;> cases noCompression
  case b64.true  => exact congrArg (· >>= pure) <| Base64.decode_encode data
  case hex.true  => exact congrArg (· >>= pure) <| PyText.fromHex_ofBytes (s := data)
  case b64.false =>
    exact (congrArg (· >>= zlib.decompress) <| Base64.decode_encode _).trans <| hz data
  case hex.false =>
    exact (congrArg (· >>= zlib.decompress) PyText.fromHex_ofBytes).trans <| hz data

-- The reader gets the bytes back that the writer has encoded with the same options.
theorem getbytes_encode_eq (hz : ∀ data, zlib.decompress (zlib.compress data) = some data)
    (args : FormatArgs) (data : List Byte) :
    (args.encoding zlib).getbytes ((args.encoding zlib).encode data) = some data ∧
    (16 < data.length → ¬ofString ">" <+: (args.encoding zlib).encode data) := by
  have hp := not_prefix_encodeLong zlib args data
  by_cases hl : data.length ≤ 16
  case pos => exact ⟨getbytes_encode_of_le hl, fun h => absurd hl <| Nat.not_le_of_lt h⟩
  case neg =>
    refine ⟨?_, fun _ => ?_⟩
    case refine_1 =>
      exact (getbytes_encode_of_lt (Nat.lt_of_not_le hl) hp).trans <| decodeLong_encodeLong hz
    case refine_2 =>
      rw [encode, if_neg hl]
      exact hp

-- What `zlib` does to 17 zeros, and a mark in front of everything else.
def zerosZlib : Zlib where
  compress data :=
    if data = List.replicate 17 0 then
      [0x78, 0x9c, 0x63, 0x60, 0x40, 0x03, 0x00, 0x00, 0x11, 0x00, 0x01]
    else
      0 :: data
  decompress
    | 0 :: data => some data
    | data      =>
      if data = [0x78, 0x9c, 0x63, 0x60, 0x40, 0x03, 0x00, 0x00, 0x11, 0x00, 0x01] then
        some <| List.replicate 17 0
      else
        none

theorem getbytes_encode_eq_zeros :
    let encoding := FormatArgs.encoding zerosZlib ⟨.b64, false⟩
    encoding.encode (List.replicate 17 0) = ofString "eJxjYEADAAARAAE=" ∧
    encoding.getbytes (encoding.encode <| List.replicate 17 0) = some (List.replicate 17 0) := by
  have hz : ∀ data, zerosZlib.decompress (zerosZlib.compress data) = some data := by
    intro data
    by_cases h : data = List.replicate 17 0
    case pos => rw [h]; rfl
    case neg =>
      have hc : zerosZlib.compress data = 0 :: data := if_neg h
      rw [hc]
      rfl
  exact ⟨by decide, (getbytes_encode_eq hz ⟨.b64, false⟩ _).left⟩

end TraceEncoding

namespace TraceReader

variable {pt₁ pt₂ : FilePoint} {pts₁ pts₂ : List FilePoint} {calls : List (FilePoint × FilePoint)}
  {n : Nat}

def Ascending (pts : List FilePoint) : Prop :=
  pts.Pairwise fun pt pt' => pt.executedInsns ≤ pt'.executedInsns

-- The tracepoints with the number `n`.
def pointsAt (pts : List FilePoint) (n : Nat) : List FilePoint :=
  pts.filter (·.executedInsns = n)

-- The calls for the number `n` are in the order of both traces, and as many as the trace with fewer
-- tracepoints has.
structure IsIntersection (pts₁ pts₂ : List FilePoint) (calls : List (FilePoint × FilePoint)) :
    Prop where
  pairs     : ∀ n, calls.filter (·.1.executedInsns = n) = (pointsAt pts₁ n).zip (pointsAt pts₂ n)
  same      : ∀ p ∈ calls, p.1.executedInsns = p.2.executedInsns
  ascending : calls.Pairwise fun p p' => p.1.executedInsns ≤ p'.1.executedInsns

theorem pointsAt_cons_of_ne (h : pt₁.executedInsns ≠ n) :
    pointsAt (pt₁ :: pts₁) n = pointsAt pts₁ n :=
  List.filter_cons_of_neg <| by simpa using h

theorem pointsAt_cons_of_eq (h : pt₁.executedInsns = n) :
    pointsAt (pt₁ :: pts₁) n = pt₁ :: pointsAt pts₁ n :=
  List.filter_cons_of_pos <| by simpa using h

-- All numbers of an ascending trace are at least the first one.
theorem pointsAt_of_lt (h : Ascending (pt₁ :: pts₁)) (hn : n < pt₁.executedInsns) :
    pointsAt (pt₁ :: pts₁) n = [] := by
  refine List.filter_eq_nil_iff.mpr fun pt hpt => ?_
  rw [decide_eq_true_iff]
  cases List.mem_cons.mp hpt
  case inl he => exact he ▸ hn.ne'
  case inr hm => exact (hn.trans_le <| List.rel_of_pairwise_cons h hm).ne'

namespace IsIntersection

theorem nil_left : IsIntersection [] pts₂ [] where
  pairs _   := rfl
  same      := nofun
  ascending := .nil

theorem nil_right : IsIntersection pts₁ [] [] where
  pairs _   := List.zip_nil_right.symm
  same      := nofun
  ascending := .nil

theorem mem_left (h : IsIntersection pts₁ pts₂ calls) {p : FilePoint × FilePoint}
    (hp : p ∈ calls) : p.1 ∈ pts₁ := by
  have hm : p ∈ (pointsAt pts₁ p.1.executedInsns).zip (pointsAt pts₂ p.1.executedInsns) := by
    rw [← h.pairs, List.mem_filter]
    exact ⟨hp, decide_eq_true rfl⟩
  exact List.mem_of_mem_filter (List.of_mem_zip hm).left

-- The three branches of the loop.

theorem cons_of_eq (h : IsIntersection pts₁ pts₂ calls) (h₁ : Ascending (pt₁ :: pts₁))
    (he : pt₁.executedInsns = pt₂.executedInsns) :
    IsIntersection (pt₁ :: pts₁) (pt₂ :: pts₂) ((pt₁, pt₂) :: calls) where
  same      := List.forall_mem_cons.mpr ⟨he, h.same⟩
  ascending := List.pairwise_cons.mpr
    ⟨fun _ hp => List.rel_of_pairwise_cons h₁ <| h.mem_left hp, h.ascending⟩
  pairs n   := by
    by_cases hn : pt₁.executedInsns = n
    case pos =>
      rw [pointsAt_cons_of_eq hn, pointsAt_cons_of_eq (he ▸ hn), List.zip_cons_cons, ← h.pairs]
      exact List.filter_cons_of_pos <| decide_eq_true hn
    case neg =>
      rw [pointsAt_cons_of_ne hn, pointsAt_cons_of_ne (he ▸ hn), ← h.pairs]
      exact List.filter_cons_of_neg <| by simpa using hn

theorem cons_of_lt (h : IsIntersection pts₁ (pt₂ :: pts₂) calls) (h₂ : Ascending (pt₂ :: pts₂))
    (hl : pt₁.executedInsns < pt₂.executedInsns) :
    IsIntersection (pt₁ :: pts₁) (pt₂ :: pts₂) calls where
  same      := h.same
  ascending := h.ascending
  pairs n   := by
    by_cases hn : pt₁.executedInsns = n
    case pos => rw [h.pairs, pointsAt_of_lt h₂ (hn ▸ hl), List.zip_nil_right, List.zip_nil_right]
    case neg => rw [h.pairs, pointsAt_cons_of_ne hn]

theorem cons_of_gt (h : IsIntersection (pt₁ :: pts₁) pts₂ calls) (h₁ : Ascending (pt₁ :: pts₁))
    (hl : pt₂.executedInsns < pt₁.executedInsns) :
    IsIntersection (pt₁ :: pts₁) (pt₂ :: pts₂) calls where
  same      := h.same
  ascending := h.ascending
  pairs n   := by
    by_cases hn : pt₂.executedInsns = n
    case pos => rw [h.pairs, pointsAt_of_lt h₁ (hn ▸ hl), List.zip_nil_left, List.zip_nil_left]
    case neg => rw [h.pairs, pointsAt_cons_of_ne hn]

end IsIntersection

-- The calls of a run, which are the same for all callbacks, whatever they do.
theorem exists_calls (h₁ : Ascending pts₁) (h₂ : Ascending pts₂) : ∃ calls,
    IsIntersection pts₁ pts₂ calls ∧
    ∀ (m : Type → Type) [Monad m] (callback : FilePoint → FilePoint → m Unit),
      align callback pts₁ pts₂ = calls.forM fun p => callback p.1 p.2 := by
  induction pts₁, pts₂ using align.induct
  case case1 pts₂ => exact ⟨[], .nil_left, fun _ _ _ => align_nil_left⟩
  case case2 pts₁ _ => exact ⟨[], .nil_right, fun _ _ _ => align_nil_right⟩
  case case3 pt₁ pts₁ pt₂ pts₂ he hi =>
    have ⟨calls, hc, ha⟩ := hi h₁.of_cons h₂.of_cons
    refine ⟨(pt₁, pt₂) :: calls, hc.cons_of_eq h₁ he, fun m _ callback => ?_⟩
    rw [align_cons_of_eq he, ha]
    rfl
  case case4 pt₁ pts₁ pt₂ pts₂ he hl hi =>
    have ⟨calls, hc, ha⟩ := hi h₁.of_cons h₂
    exact ⟨calls, hc.cons_of_lt h₂ hl, fun m _ callback => align_cons_of_lt hl |>.trans <| ha ..⟩
  case case5 pt₁ pts₁ pt₂ pts₂ he hl hi =>
    have ⟨calls, hc, ha⟩ := hi h₁ h₂.of_cons
    have hg : pt₂.executedInsns < pt₁.executedInsns := by omega
    exact ⟨calls, hc.cons_of_gt h₁ hg, fun m _ callback => align_cons_of_gt hg |>.trans <| ha ..⟩

-- The loop calls the callback for the intersection of the traces, in ascending order.
theorem align_eq_forM (h₁ : Ascending pts₁) (h₂ : Ascending pts₂) : ∃ calls,
    IsIntersection pts₁ pts₂ calls ∧
    (∀ n, (calls.filter (·.1.executedInsns = n)).length =
      min (pointsAt pts₁ n).length (pointsAt pts₂ n).length) ∧
    ∀ (m : Type → Type) [Monad m] (callback : FilePoint → FilePoint → m Unit),
      align callback pts₁ pts₂ = calls.forM fun p => callback p.1 p.2 := by
  have ⟨calls, hc, ha⟩ := exists_calls h₁ h₂
  refine ⟨calls, hc, fun n => ?_, ha⟩
  rw [hc.pairs, List.length_zip]

-- Two snapshots of the final state on either side, and a step on one of them.
theorem align_eq_forM_snapshots :
    let pts₁ := [⟨0, []⟩, ⟨1, []⟩, ⟨2, []⟩, ⟨2, []⟩]
    let pts₂ := [⟨0, []⟩, ⟨2, []⟩, ⟨2, []⟩]
    ∃ calls, IsIntersection pts₁ pts₂ calls ∧
      (calls.filter (·.1.executedInsns = 2)).length = 2 ∧
      ∀ (m : Type → Type) [Monad m] (callback : FilePoint → FilePoint → m Unit),
        align callback pts₁ pts₂ = calls.forM fun p => callback p.1 p.2 := by
  intro pts₁ pts₂
  have h₁ : Ascending pts₁ := by simp [pts₁, Ascending]
  have h₂ : Ascending pts₂ := by simp [pts₂, Ascending]
  have ⟨calls, hc, hn, ha⟩ := align_eq_forM h₁ h₂
  exact ⟨calls, hc, hn 2, ha⟩

end TraceReader
