import Thumb2Sim.Qemu.DebuggingProtocol

open Ascii

namespace DebuggingProtocol

variable {data more remaining : List Byte} {msg : DebuggingProtocolResponse}

theorem tokenizer_of_some (h : token data = some (msg, remaining)) :
    tokenizer data = (msg :: (tokenizer remaining).1, (tokenizer remaining).2) := by
  rw [tokenizer]
  split
  case h_1 h' =>
    cases h.symm.trans h'
    rfl
  case h_2 h' => cases h.symm.trans h'

theorem tokenizer_of_none (h : token data = none) : tokenizer data = ([], data) := by
  rw [tokenizer]
  split
  case h_1 h' => cases h.symm.trans h'
  case h_2    => rfl

-- What is complete does not depend on the bytes that follow.

theorem hashIndex_append (h : ofChar '#' ∈ data) : hashIndex (data ++ more) = hashIndex data :=
  List.idxOf_append_of_mem h

theorem IsComplete.append (h : IsComplete data) : IsComplete (data ++ more) := by
  obtain ⟨hl, hp, hm, hi⟩ := h
  refine ⟨?_, hp.trans <| List.prefix_append .., List.mem_append_left _ hm, ?_⟩
  case refine_1 => rw [List.length_append]; omega
  case refine_2 => rw [hashIndex_append hm, List.length_append]; omega

theorem token_of_isComplete (h : IsComplete data) :
    token data = some (⟨true, (data.take <| hashIndex data).drop 2,
      (data.drop <| hashIndex data).take 2⟩, data.drop <| hashIndex data + 3) := by
  cases data
  case nil => cases h.left
  case cons first behind =>
    have hf : first = ofChar '+' := (List.cons_prefix_cons.mp h.right.left).left.symm
    simp only [token, if_pos hf, if_pos h]

theorem token_append (h : token data = some (msg, remaining)) :
    token (data ++ more) = some (msg, remaining ++ more) := by
  cases data
  case nil => cases h
  case cons first behind =>
    by_cases hc : IsComplete (first :: behind)
    case pos =>
      have ⟨_, _, hm, hi⟩ := hc
      have hl : hashIndex (first :: behind) ≤ (first :: behind).length := by omega
      rw [token_of_isComplete hc] at h
      cases h
      rw [token_of_isComplete hc.append, hashIndex_append hm, List.take_append_of_le_length hl,
        List.drop_append_of_le_length hl, List.drop_append_of_le_length hi,
        List.take_append_of_le_length (by rw [List.length_drop]; omega)]
    case neg =>
      simp only [token, if_neg hc, List.cons_append] at h ⊢
      by_cases hf : first = ofChar '+'
      case pos => rw [if_pos hf] at h; cases h
      case neg =>
        rw [if_neg hf] at h ⊢
        split at h <;> cases h
        case isTrue hm  => rw [if_pos hm]
        case isFalse hm => rw [if_neg hm]

theorem tokenizer_append (data more : List Byte) :
    tokenizer (data ++ more) =
      ((tokenizer data).1 ++ (tokenizer <| (tokenizer data).2 ++ more).1,
        (tokenizer <| (tokenizer data).2 ++ more).2) := by
  induction data using tokenizer.induct
  case case1 data msg remaining h _ _ _ _ hi =>
    rw [tokenizer_of_some h, tokenizer_of_some <| token_append h, hi]
    rfl
  case case2 data h => rw [tokenizer_of_none h]; rfl

end DebuggingProtocol

namespace RXBuffer

theorem foldl_put_of_tokenizer (chunks : List (List Byte)) (rx : RXBuffer) {data : List Byte}
    (h : (rx.msgs, rx.buffer) = DebuggingProtocol.tokenizer data) :
    ((chunks.foldl put rx).msgs, (chunks.foldl put rx).buffer) =
      DebuggingProtocol.tokenizer (data ++ chunks.flatten) := by
  induction chunks generalizing rx data
  case nil => simpa using h
  case cons chunk chunks hi =>
    rw [List.flatten_cons, ← List.append_assoc]
    refine hi (rx.put chunk) ?_
    rw [DebuggingProtocol.tokenizer_append, ← h]
    rfl

theorem msgs_foldl_put (chunks : List (List Byte)) :
    (chunks.foldl put init).msgs = (DebuggingProtocol.tokenizer chunks.flatten).1 :=
  congrArg Prod.fst <|
    foldl_put_of_tokenizer chunks init (DebuggingProtocol.tokenizer_of_none rfl).symm

-- However a stream of bytes is cut into chunks, the same messages are delivered, and the same bytes
-- remain.
theorem foldl_put (chunks : List (List Byte)) :
    let rx := chunks.foldl put init
    (rx.msgs, rx.buffer) = DebuggingProtocol.tokenizer chunks.flatten :=
  foldl_put_of_tokenizer chunks init (DebuggingProtocol.tokenizer_of_none rfl).symm

end RXBuffer
