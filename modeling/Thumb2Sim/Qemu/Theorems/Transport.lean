import Thumb2Sim.AddressSpace.Theorems.Bounds
import Thumb2Sim.Execution.Theorems.Step
import Thumb2Sim.Gdbserver.Theorems.Connection
import Thumb2Sim.Lib.Md5
import Thumb2Sim.Qemu.Theorems.Framing

open Ascii DebuggingProtocol

-- The byte order that one end changes is changed back by the other.

theorem htonl_htonl (x : Word) : htonl (htonl x) = x := by
  apply BitVec.eq_of_getLsbD_eq
  intro i hi
  unfold htonl
  simp only [BitVec.getLsbD_append, BitVec.getLsbD_extractLsb']
  grind

theorem ARMDebuggingProtocol.byteorder_toNat (x : Word) :
    byteorder (x.toNat : Int) = (htonl x).toNat := by
  have hb : ∀ n : Nat, ((x.toNat : Int) >>> n % 0x100).toNat = (x.extractLsb' n 8).toNat := by
    intro n
    rw [← Int.natCast_shiftRight, BitVec.extractLsb'_toNat]
    omega
  simp only [byteorder, hb, htonl, BitVec.toNat_append, Nat.shiftLeft_or_distrib,
    ← Nat.shiftLeft_add, Nat.shiftLeft_zero]

-- Memory is written as the digits of its bytes.

theorem nibbleToHexchar_eq : ∀ nibble : Byte,
    nibbleToHexchar nibble = Hex.digit (nibble.toNat % 16) := by
  decide

theorem memoryToHexstr_eq (src : List Byte) : memoryToHexstr src = Hex.ofBytes src := by
  unfold memoryToHexstr Hex.ofBytes
  congr 1
  funext byte
  rw [nibbleToHexchar_eq, nibbleToHexchar_eq]
  have hb := byte.isLt
  have h₁ : (byte >>> 4).toNat = byte.toNat / 16 := by
    rw [BitVec.toNat_ushiftRight, Nat.shiftRight_eq_div_pow]
  have h₂ : byte.toNat / 16 % 16 = byte.toNat / 16 := by omega
  rw [h₁, h₂]
  rfl

-- An answer of the server is one message.

variable {data tx text : List Byte}

theorem tokenizer_txFrame (h : ofChar '#' ∉ data) :
    ∃ rxCksum, tokenizer (txFrame data) = ([⟨true, some data, rxCksum⟩], []) := by
  have ht := Sent.tokenizer_flatMap [⟨.server, data, h⟩]
  rw [List.flatMap_singleton] at ht
  exact ⟨_, ht⟩

-- A request reaches the server as it is.

section

variable {U : Type} {host : Callbacks U} {md5 : Md5} (stale : Nat → List Byte) {t : Target U}
  {ctx : EmuCtx U} {cmd : List Byte} {success : Bool}

-- The texts that are sent as commands fit into the buffer of the server.
structure IsRequest (cmd : List Byte) : Prop where
  byte   : ∀ b ∈ cmd, b ≠ 0 ∧ b < 0x80 ∧ b ≠ ofChar '#'
  length : cmd.length ≤ 4000

theorem interpretRxdata_frame (hc : IsRequest cmd) (s : List Byte) :
    interpretRxdata host md5 (rxBuffer s <| frame cmd) = gdbHandleCommand host md5 cmd := by
  let c : Command := ⟨cmd, fun b hb => (hc.byte b hb).right.left, fun hh =>
    (hc.byte _ hh).right.right rfl⟩
  have hx : checksum cmd < 16 ^ 2 := Nat.lt_of_le_of_lt Nat.and_le_right (by decide)
  have hk : (Hex.padded 2 <| checksum cmd).length = 2 := Hex.padded_length (by decide) hx
  have hl : (frame cmd).length ≤ rxDataSize - 1 := by
    have := hc.length
    simp only [frame, List.length_append, hk, rxDataSize]
    change 2 + cmd.length + (1 + 2) ≤ 4095
    omega
  have hp := Read.chunk_prefix ⟨s, frame cmd, hl⟩
  have hm : rxMessage (rxBuffer s <| frame cmd) = some cmd :=
    rxMessage_eq_some_iff.mpr ⟨fun hz => (hc.byte 0 hz).left rfl, c.noHash,
      c.header_prefix.trans hp⟩
  rw [interpretRxdata, hm]

theorem sendCmd_eq (hc : IsRequest cmd) (hd : ofChar '#' ∉ data)
    (h : gdbHandleCommand host md5 cmd t.ctx = .ok (.reply (txFrame data) success, ctx)) :
    ∃ rxCksum, sendCmd host md5 stale cmd t =
      .ok (⟨true, some data, rxCksum⟩, ⟨ctx, t.reads + 1⟩) := by
  have ha : PyText.ascii cmd = some cmd := if_pos fun b hb => (hc.byte b hb).right.left
  have ⟨rxCksum, ht⟩ := tokenizer_txFrame hd
  refine ⟨rxCksum, ?_⟩
  simp only [sendCmd, ha, interpretRxdata_frame hc, h, ht]

-- The answers are texts of digits.
theorem sendCmd_text (hc : IsRequest cmd) (hd : ∀ b ∈ data, Hex.IsDigit b)
    (h : gdbHandleCommand host md5 cmd t.ctx = .ok (.reply (txFrame data) success, ctx)) :
    ∃ reply, sendCmd host md5 stale cmd t = .ok (reply, ⟨ctx, t.reads + 1⟩) ∧
      reply.text = some data := by
  have hn : ofChar '#' ∉ data := fun hh => absurd (hd _ hh) (by decide)
  have ⟨rxCksum, hs⟩ := sendCmd_eq stale hc hn h
  exact ⟨_, hs, PyText.ascii_of_isDigit hd⟩

end

-- The registers.

namespace ARMDebuggingProtocol

-- The words of the answer to the request of the registers.
def registerWords (cpu : Cpu) : List Word :=
  (List.finRange 16).map (fun i => htonl <| cpu.reg i) ++ List.replicate 25 0 ++ [htonl cpu.psr]

def wordText (w : Word) : List Byte :=
  Hex.padded 8 w.toNat

variable {words : List Word} {w : Word} {cpu : Cpu}

theorem registerWords_length : (registerWords cpu).length = 42 := by
  simp [registerWords]

theorem registerWords_reg (i : Fin 16) : (registerWords cpu)[i.val]? = some (htonl <| cpu.reg i) := by
  simp [registerWords, i.isLt, List.getElem?_append]

theorem registerWords_psr : (registerWords cpu)[41]? = some (htonl cpu.psr) := by
  simp [registerWords]

-- The words of the answer hold the registers in the order of the dictionary.
theorem regDict_registerWords :
    regDict ((registerWords cpu).map fun w => (w.toNat : Int)) =
      some ⟨fun i => (cpu.reg i).toNat, cpu.psr.toNat⟩ := by
  rw [regDict, if_pos (by rw [List.length_map, registerWords_length]; decide)]
  simp [registerWords_reg, registerWords_psr, byteorder_toNat, htonl_htonl]

theorem wordText_length : (wordText w).length = 8 :=
  Hex.padded_length (by decide) <| w.isLt

theorem gdbDumpRegisterSet_eq :
    gdbDumpRegisterSet cpu = (txFrame <| (registerWords cpu).flatMap wordText, true) := by
  have hz : ∀ x, wordText 0 = x → ((List.range 25).flatMap fun _ => x) =
      (List.replicate 25 0).flatMap wordText := by
    rintro _ rfl
    rfl
  simp only [gdbDumpRegisterSet, hz (ofString "00000000") (by decide), registerWords,
    List.flatMap_append, List.flatMap_map, List.flatMap_singleton]
  rfl

theorem isDigit_of_mem_wordText {b : Byte} (h : b ∈ wordText w) : Hex.IsDigit b :=
  Hex.isDigit_of_mem_padded h

theorem int16_wordText : PyText.int16 (wordText w) = some (w.toNat : Int) := by
  have hn : wordText w ≠ [] := by
    intro h
    have hl := wordText_length (w := w)
    rw [h] at hl
    cases hl
  rw [PyText.int16_of_isDigit (fun _ => isDigit_of_mem_wordText) hn, wordText,
    Hex.prefixValue_padded]

theorem wordText_at : ∀ {words : List Word} {i : Nat} {w : Word}, words[i]? = some w →
    ((words.flatMap wordText).drop (8 * i)).take 8 = wordText w := by
  intro words
  induction words
  case nil => exact fun h => by cases h
  case cons v words hi =>
    intro i w h
    have hv := wordText_length (w := v)
    cases i
    case zero =>
      cases h
      rw [Nat.mul_zero, List.drop_zero, List.flatMap_cons, ← hv, List.take_left]
    case succ i =>
      rw [Nat.mul_succ, Nat.add_comm, ← List.drop_drop, List.flatMap_cons, List.drop_left' hv]
      exact hi h

theorem values_flatMap :
    values (words.flatMap wordText) = some (words.map fun w => (w.toNat : Int)) := by
  have hl : (words.flatMap wordText).length = 8 * words.length := by
    induction words
    case nil           => rfl
    case cons w l hi => rw [List.flatMap_cons, List.length_append, wordText_length, hi]; simp; omega
  have hm : ∀ l : List Nat, (∀ i ∈ l, i < words.length) →
      ((l.map (0 + 8 * ·)).mapM fun i =>
        PyText.int16 <| ((words.flatMap wordText).drop i).take 8) =
      some (l.map fun i => ((words.getD i 0).toNat : Int)) := by
    intro l
    induction l
    case nil => exact fun _ => rfl
    case cons i l hi =>
      intro hl
      have hw : words[i]? = some (words.getD i 0) := by
        simp [hl i List.mem_cons_self]
      rw [List.map_cons, List.mapM_cons, Nat.zero_add, wordText_at hw, int16_wordText,
        hi fun j hj => hl j <| List.mem_cons_of_mem _ hj]
      rfl
  have hn : (8 * words.length - 0 + (8 - 1)) / 8 = words.length := by omega
  rw [values, DebuggingProtocol.pyRange, hl, hn, hm _ fun i => List.mem_range.mp]
  congr 1
  apply List.ext_getElem
  case hl => simp
  case h  =>
    intro i h₁ _
    have hi : i < words.length := by simpa using h₁
    simp [hi]

end ARMDebuggingProtocol

variable {U : Type} {host : Callbacks U} {md5 : Md5} {stale : Nat → List Byte} {t : Target U}

-- The request returns, and the machine is as before.
def Returns {α : Type} (request : Program (Target U) Fault α) (t : Target U) (a : α) : Prop :=
  ∃ reads, request t = .ok (a, ⟨t.ctx, reads⟩)

theorem returns_getRegs : Returns (ARMDebuggingProtocol.getRegs host md5 stale) t
    ⟨fun i => (t.ctx.cpu.reg i).toNat, t.ctx.cpu.psr.toNat⟩ := by
  have hg : gdbHandleCommand host md5 (ofString "g") t.ctx =
      .ok (.reply (txFrame <| (ARMDebuggingProtocol.registerWords t.ctx.cpu).flatMap
        ARMDebuggingProtocol.wordText) true, t.ctx) := by
    rw [gdbHandleCommand, if_pos rfl, ARMDebuggingProtocol.gdbDumpRegisterSet_eq]
    rfl
  have hd : ∀ b ∈ (ARMDebuggingProtocol.registerWords t.ctx.cpu).flatMap
      ARMDebuggingProtocol.wordText, Hex.IsDigit b := by
    intro b hb
    obtain ⟨_, _, hw⟩ := List.mem_flatMap.mp hb
    exact ARMDebuggingProtocol.isDigit_of_mem_wordText hw
  obtain ⟨reply, hr, ht⟩ := sendCmd_text stale ⟨by decide, by decide⟩ hd hg
  refine ⟨t.reads + 1, (Program.bind_of_ok hr).trans ?_⟩
  rw [ht, Option.bind_some, ARMDebuggingProtocol.values_flatMap, Option.bind_some,
    ARMDebuggingProtocol.regDict_registerWords]
  rfl

-- The memory.

theorem addressAndLength_rangeText {startAddress length : Nat} (hs : startAddress < 2 ^ 63)
    (hl : length < 2 ^ 63) : addressAndLength (rangeText startAddress length) =
      some (BitVec.ofNat 32 startAddress, BitVec.ofNat 32 length) := by
  have hn : ofChar ',' ∉ Hex.digits startAddress := fun h =>
    absurd (Hex.isDigit_of_mem_digits h) (by decide)
  have ht : rangeText startAddress length =
      Hex.digits startAddress ++ ofChar ',' :: Hex.digits length := by
    rw [rangeText, List.append_assoc]
    rfl
  have hp : Hex.digits startAddress ++ [ofChar ','] <+:
      Hex.digits startAddress ++ ofChar ',' :: Hex.digits length := by simp
  rw [ht, addressAndLength, if_pos (by simp), CString.takeWhile_ne_of_prefix hn hp,
    CString.dropWhile_ne_append hn]
  simp only [List.drop_one, List.tail_cons, CString.strtoll16_digits hs,
    CString.strtoll16_digits hl, BitVec.ofInt_natCast]

theorem isRequest_rangeText {startAddress length : Nat} (h : InAddressSpace startAddress length) :
    (∀ b ∈ rangeText startAddress length, b ≠ 0 ∧ b < 0x80 ∧ b ≠ ofChar '#') ∧
      (rangeText startAddress length).length ≤ 19 := by
  obtain ⟨hs, _, hl⟩ := h
  constructor
  case left =>
    intro b hb
    have hd : ∀ b, Hex.IsDigit b → b ≠ 0 ∧ b < 0x80 ∧ b ≠ ofChar '#' := by decide
    have hc : ∀ b ∈ ofString ",", b ≠ 0 ∧ b < 0x80 ∧ b ≠ ofChar '#' := by decide
    obtain (hb | hb) | hb := by simpa only [rangeText, List.mem_append] using hb
    · exact hd b <| Hex.isDigit_of_mem_digits hb
    · exact hc b hb
    · exact hd b <| Hex.isDigit_of_mem_digits hb
  case right =>
    have hs' := Hex.digits_length_le (n := startAddress) (k := 9) (by decide) (by omega)
    have hl' := Hex.digits_length_le (n := length) (k := 9) (by decide) (by omega)
    rw [rangeText, List.length_append, List.length_append]
    change _ + 1 + _ ≤ 19
    omega

-- The requests of memory with the given beginning.
theorem IsRequest.rangeText {cmd : List Byte} {startAddress length : Nat} (hc : IsRequest cmd)
    (hl : cmd.length ≤ 9) (h : InAddressSpace startAddress length) :
    IsRequest (cmd ++ DebuggingProtocol.rangeText startAddress length) where
  byte   := by
    intro b hb
    cases List.mem_append.mp hb
    case inl hb => exact hc.byte b hb
    case inr hb => exact (isRequest_rangeText h).left b hb
  length := by
    have := (isRequest_rangeText h).right
    rw [List.length_append]
    omega

-- The addresses of a range are looked up in the same slice, which has a buffer of its size.
structure EmuCtx.MapsTo (ctx : EmuCtx U) (slice : AddressSlice) (startAddress length : Nat) :
    Prop where
  getslice : ∀ i < length,
    ctx.addrSpace.getslice (BitVec.ofNat 32 <| startAddress + i) 1 = some slice
  noWrap   : startAddress + length ≤ 2 ^ 32
  valid    : ctx.memory.Valid slice.data (slice.endAddr.toNat - slice.beginAddr.toNat)

section

variable {ctx : EmuCtx U} {slice : AddressSlice} {startAddress length offset n : Nat}

-- The cells of the buffer from the given address on.
def AddressSlice.cells (slice : AddressSlice) (memory : HostMemory) (address : Nat) : List Byte :=
  (memory slice.data.block).drop (slice.ptr <| BitVec.ofNat 32 address).offset

theorem EmuCtx.MapsTo.part (h : ctx.MapsTo slice startAddress length) (ho : offset + n ≤ length) :
    ctx.MapsTo slice (startAddress + offset) n where
  getslice := fun i hi => by
    rw [Nat.add_assoc]
    exact h.getslice (offset + i) (by omega)
  noWrap   := by have := h.noWrap; omega
  valid    := h.valid

theorem AddressSlice.contains_first (slice : AddressSlice) {address length : Word}
    (hl : 1 ≤ length.toNat) (hw : address.toNat + length.toNat ≤ 2 ^ 32)
    (h : slice.beginAddr ≤ address && address + length - 1 < slice.endAddr) :
    slice.beginAddr ≤ address && address + 1 - 1 < slice.endAddr := by
  have hm : address.toNat + length.toNat - 1 < 2 ^ 32 := by omega
  simp only [Bool.and_eq_true, decide_eq_true_eq, BitVec.lt_def, Addrspace.last_toNat hl,
    Nat.mod_eq_of_lt hm] at h
  simp only [Bool.and_eq_true, decide_eq_true_eq, BitVec.lt_def, BitVec.add_sub_cancel]
  exact ⟨h.left, by omega⟩

theorem EmuCtx.MapsTo.bounds (h : ctx.MapsTo slice startAddress length) (hl : 0 < length) :
    slice.beginAddr.toNat ≤ startAddress ∧ startAddress + length ≤ slice.endAddr.toNat := by
  have hw := h.noWrap
  have ⟨_, hb, _⟩ := Addrspace.getslice_some <| h.getslice 0 hl
  have ⟨_, _, he⟩ := Addrspace.getslice_some <| h.getslice (length - 1) (by omega)
  rw [BitVec.le_def, BitVec.toNat_ofNat] at hb
  rw [BitVec.add_sub_cancel, BitVec.lt_def, BitVec.toNat_ofNat] at he
  omega

theorem EmuCtx.MapsTo.getslice_range (h : ctx.MapsTo slice startAddress length) (hl : 0 < length) :
    ctx.addrSpace.getslice (BitVec.ofNat 32 startAddress) (BitVec.ofNat 32 length) =
      some slice := by
  have ⟨hb, he⟩ := h.bounds hl
  have hs := slice.endAddr.isLt
  have ha : (BitVec.ofNat 32 startAddress).toNat = startAddress := by
    rw [BitVec.toNat_ofNat]
    omega
  have hn : (BitVec.ofNat 32 length).toNat = length := by
    rw [BitVec.toNat_ofNat]
    omega
  obtain ⟨-, as, bs, hx, hp⟩ := List.find?_eq_some_iff_append.mp <| h.getslice 0 hl
  refine List.find?_eq_some_iff_append.mpr ⟨?_, as, bs, hx, fun s hm => ?_⟩
  case refine_1 =>
    simp only [Bool.and_eq_true, decide_eq_true_eq, BitVec.le_def, BitVec.lt_def,
      Addrspace.last_toNat (hn.symm ▸ hl), ha, hn]
    omega
  case refine_2 =>
    refine Bool.not_eq_true' _ |>.mpr <| Bool.eq_false_iff.mpr fun hc => ?_
    have hf := s.contains_first (by omega) (by omega) hc
    have hq := hp s hm
    rw [Nat.add_zero, hf] at hq
    cases hq

-- The memory of the range is read in one piece.
theorem EmuCtx.MapsTo.load (h : ctx.MapsTo slice startAddress length) (hl : 0 < length) :
    ∃ p, ctx.addrSpace.memptr (BitVec.ofNat 32 startAddress) (BitVec.ofNat 32 length) = some p ∧
      ctx.memory.load p (BitVec.ofNat 32 length).toNat =
        .ok ((slice.cells ctx.memory startAddress).take length) := by
  have ⟨hb, he⟩ := h.bounds hl
  have hv := h.valid
  have hs := slice.endAddr.isLt
  have ha : (BitVec.ofNat 32 startAddress).toNat = startAddress := by
    rw [BitVec.toNat_ofNat]
    omega
  have hn : (BitVec.ofNat 32 length).toNat = length := by
    rw [BitVec.toNat_ofNat]
    omega
  refine ⟨slice.ptr <| BitVec.ofNat 32 startAddress, ?_, ?_⟩
  case refine_1 => rw [Addrspace.memptr, h.getslice_range hl, Option.map_some]
  case refine_2 =>
    rw [hn]
    refine Heap.load_eq_ok ?_
    simp only [Heap.Valid, AddressSlice.ptr, Ptr.advance_block, Ptr.advance_offset, ha] at hv ⊢
    omega

theorem EmuCtx.MapsTo.cells_add (h : ctx.MapsTo slice startAddress length) (ho : offset < length) :
    slice.cells ctx.memory (startAddress + offset) =
      (slice.cells ctx.memory startAddress).drop offset := by
  have ⟨hb, _⟩ := h.bounds (by omega)
  have hw := h.noWrap
  have ho' : (slice.ptr <| BitVec.ofNat 32 <| startAddress + offset).offset =
      (slice.ptr <| BitVec.ofNat 32 startAddress).offset + offset := by
    simp only [AddressSlice.ptr, Ptr.advance_offset, BitVec.toNat_ofNat]
    omega
  rw [AddressSlice.cells, ho', ← List.drop_drop]
  rfl

theorem EmuCtx.MapsTo.inAddressSpace (h : ctx.MapsTo slice startAddress length) (hl : 0 < length) :
    InAddressSpace startAddress length := by
  have ⟨_, he⟩ := h.bounds hl
  have hs := slice.endAddr.isLt
  exact ⟨by omega, hl, by omega⟩

theorem EmuCtx.MapsTo.addressAndLength (h : ctx.MapsTo slice startAddress length)
    (hl : 0 < length) : addressAndLength (rangeText startAddress length) =
      some (BitVec.ofNat 32 startAddress, BitVec.ofNat 32 length) := by
  obtain ⟨hs, -, he⟩ := h.inAddressSpace hl
  exact addressAndLength_rangeText (by omega) (by omega)

variable (host md5 stale)

theorem gdbHandleCommand_memory (h : ctx.MapsTo slice startAddress length) (hl : 0 < length)
    (hm : length < 2 ^ 31) :
    gdbHandleCommand host md5 (ofString "m" ++ rangeText startAddress length) ctx =
      .ok (.reply (txFrame <| Hex.ofBytes <| (slice.cells ctx.memory startAddress).take length) true,
        ctx) := by
  have hg : ofString "m" ++ rangeText startAddress length ≠ ofString "g" := fun hg =>
    absurd (congrArg List.head? hg) (by simp [ofString, ofChar])
  have hh : (ofString "m" ++ rangeText startAddress length).head? = some (ofChar 'm') := rfl
  have hd : (ofString "m" ++ rangeText startAddress length).drop 1 =
      rangeText startAddress length := rfl
  obtain ⟨p, hp, hb⟩ := h.load hl
  have hn : (BitVec.ofNat 32 length).toNat < 2 ^ 31 := by
    rw [BitVec.toNat_ofNat]
    omega
  simp only [gdbHandleCommand, if_neg hg, if_pos hh, hd, h.addressAndLength hl, gdbDumpMemory, hp,
    hb, memoryToHexstr_eq, bind, Except.bind, if_pos hn]
  rfl

theorem gdbHandleCommand_hash (h : ctx.MapsTo slice startAddress length) (hl : 0 < length) :
    gdbHandleCommand host md5 (ofString "qmemhash:" ++ rangeText startAddress length) ctx =
      .ok (.reply (txFrame <| Hex.ofBytes
        (md5 <| (slice.cells ctx.memory startAddress).take length).toList) true, ctx) := by
  have hh : ∀ c, ofString "qmemhash:" ++ rangeText startAddress length = c →
      c.head? = some (ofChar 'q') := fun c hc => hc ▸ rfl
  have hg : ofString "qmemhash:" ++ rangeText startAddress length ≠ ofString "g" := fun hg =>
    absurd (hh _ hg) (by decide)
  have hv : ofString "qmemhash:" ++ rangeText startAddress length ≠ ofString "vCont;s:1;c" :=
    fun hv => absurd (hh _ hv) (by decide)
  have hd : (ofString "qmemhash:" ++ rangeText startAddress length).drop 9 =
      rangeText startAddress length := rfl
  have ⟨p, hp, hb⟩ := h.load hl
  simp only [gdbHandleCommand, if_neg hg, if_neg hv, hh _ rfl, if_pos (List.prefix_append ..), hd,
    h.addressAndLength hl, gdbHashMemory, hp, hb, memoryToHexstr_eq]
  rfl

theorem readMemoryChunk_eq (h : t.ctx.MapsTo slice startAddress length) (hl : 0 < length)
    (hm : length < 2 ^ 31) :
    readMemoryChunk host md5 stale startAddress length t =
      .ok ((slice.cells t.ctx.memory startAddress).take length, ⟨t.ctx, t.reads + 1⟩) := by
  have hc : IsRequest <| ofString "m" := ⟨by decide, by decide⟩
  have ⟨reply, hr, ht⟩ := sendCmd_text stale (hc.rangeText (by decide) <| h.inAddressSpace hl)
    (fun _ => Hex.isDigit_of_mem_ofBytes) <| gdbHandleCommand_memory host md5 h hl hm
  rw [readMemoryChunk, Program.bind_of_ok hr, ht, Option.bind_some, PyText.fromHex_ofBytes]
  rfl

theorem returns_hashMemory (h : t.ctx.MapsTo slice startAddress length) (hl : 0 < length) :
    Returns (hashMemory host md5 stale startAddress length) t
      (md5 <| (slice.cells t.ctx.memory startAddress).take length).toList := by
  have hi := h.inAddressSpace hl
  have hc : IsRequest <| ofString "qmemhash:" := ⟨by decide, by decide⟩
  have ⟨reply, hr, ht⟩ := sendCmd_text stale (hc.rangeText (by decide) hi)
    (fun _ => Hex.isDigit_of_mem_ofBytes) <| gdbHandleCommand_hash host md5 h hl
  refine ⟨t.reads + 1, ?_⟩
  rw [hashMemory, if_pos hi, Program.bind_of_ok hr, ht, Option.bind_some, PyText.fromHex_ofBytes]
  rfl

-- The chunks are put together in their order. Only the last one may be shorter.

theorem appendChunk_eq (h : t.ctx.MapsTo slice startAddress length) {k : Nat}
    (hk : 2048 * k < length) :
    appendChunk host md5 stale startAddress length
        ((slice.cells t.ctx.memory startAddress).take (2048 * k)) (startAddress + 2048 * k) t =
      .ok ((slice.cells t.ctx.memory startAddress).take (min (2048 * (k + 1)) length),
        ⟨t.ctx, t.reads + 1⟩) := by
  have hc : (if maxMemrequestChunk < startAddress + length - (startAddress + 2048 * k) then
      maxMemrequestChunk else startAddress + length - (startAddress + 2048 * k)) =
      min (2048 * (k + 1)) length - 2048 * k := by
    unfold maxMemrequestChunk
    split <;> omega
  have hs : 2048 * k + (min (2048 * (k + 1)) length - 2048 * k) = min (2048 * (k + 1)) length := by
    omega
  have hp := h.part <| hs.trans_le <| Nat.min_le_right ..
  simp only [appendChunk, hc]
  rw [Program.bind_of_ok <| readMemoryChunk_eq host md5 stale hp (by omega) (by omega),
    h.cells_add hk, ← List.take_add, hs]
  rfl

theorem foldlM_appendChunk (h : t.ctx.MapsTo slice startAddress length) :
    ∀ m k reads, k + m = (length + 2047) / 2048 →
      ((List.range' k m).map fun i => startAddress + maxMemrequestChunk * i).foldlM
        (appendChunk host md5 stale startAddress length)
        ((slice.cells t.ctx.memory startAddress).take (min (2048 * k) length)) ⟨t.ctx, reads⟩ =
      .ok ((slice.cells t.ctx.memory startAddress).take length, ⟨t.ctx, reads + m⟩) := by
  intro m
  induction m
  case zero =>
    intro k reads hk
    have hk' : min (2048 * k) length = length := by omega
    rw [hk']
    rfl
  case succ m hm =>
    intro k reads hk
    have ho : 2048 * k < length := by omega
    have hs := appendChunk_eq host md5 stale (t := ⟨t.ctx, reads⟩) h ho
    rw [List.range'_succ, List.map_cons, List.foldlM_cons, Nat.min_eq_left (Nat.le_of_lt ho)]
    refine (Program.bind_of_ok hs).trans ?_
    rw [hm (k + 1) (reads + 1) (by omega), Nat.add_assoc, Nat.add_comm 1]

theorem returns_readMemory (h : t.ctx.MapsTo slice startAddress length) (hl : 0 < length) :
    Returns (readMemory host md5 stale startAddress length) t
      ((slice.cells t.ctx.memory startAddress).take length) := by
  have hn : startAddress + length - startAddress + (maxMemrequestChunk - 1) = length + 2047 := by
    rw [Nat.add_sub_cancel_left]
    rfl
  refine ⟨t.reads + (length + 2047) / 2048, ?_⟩
  rw [readMemory, if_pos <| h.inAddressSpace hl, pyRange, hn, List.range_eq_range']
  have hf := foldlM_appendChunk host md5 stale h _ 0 t.reads (Nat.zero_add _)
  rw [Nat.mul_zero, Nat.zero_min, List.take_zero] at hf
  exact hf

end

-- The client sees the registers, the memory and the hash of the memory as they are.
theorem transports_state (host : Callbacks U) (md5 : Md5) (stale : Nat → List Byte) (t : Target U) :
    Returns (ARMDebuggingProtocol.getRegs host md5 stale) t
      ⟨fun i => (t.ctx.cpu.reg i).toNat, t.ctx.cpu.psr.toNat⟩ ∧
    ∀ (slice : AddressSlice) (startAddress length : Nat), 0 < length →
      t.ctx.MapsTo slice startAddress length → ∃ bytes,
        Returns (readMemory host md5 stale startAddress length) t bytes ∧ bytes.length = length ∧
        (∀ i < length, bytes[i]? =
          t.ctx.memory.cell (slice.ptr <| BitVec.ofNat 32 <| startAddress + i)) ∧
        Returns (hashMemory host md5 stale startAddress length) t (md5 bytes).toList := by
  refine ⟨returns_getRegs, fun slice startAddress length hl h => ?_⟩
  obtain ⟨p, -, hb⟩ := h.load hl
  have hn := Heap.load_length hb
  refine ⟨_, returns_readMemory host md5 stale h hl, ?_, fun i hi => ?_,
    returns_hashMemory host md5 stale h hl⟩
  case refine_1 =>
    have ⟨_, he⟩ := h.bounds hl
    have hs := slice.endAddr.isLt
    rw [hn, BitVec.toNat_ofNat]
    omega
  case refine_2 =>
    rw [List.getElem?_take_of_lt hi, ← List.head?_drop, ← h.cells_add hi, AddressSlice.cells,
      List.head?_drop]
    rfl

-- A range of the ROM that is read in two pieces.
theorem transports_state_rom :
    let hw := { defaultParameters with romSizeBytes := 4096, ramSizeBytes := 16 }
    let t : Target Unit := ⟨hw.emuCtx [1, 2, 3, 4, 5, 6, 7, 8, 9, 10] [] (), 0⟩
    ∃ bytes : List Byte,
      Returns (readMemory noHost Md5.digest (fun _ => []) 2 3000) t bytes ∧ bytes.length = 3000 ∧
      (∀ i < 3000, bytes[i]? = t.ctx.memory.cell (hw.rom.slice.ptr <| BitVec.ofNat 32 <| 2 + i)) ∧
      Returns (hashMemory noHost Md5.digest (fun _ => []) 2 3000) t (Md5.digest bytes).toList := by
  intro hw t
  have hm : t.ctx.MapsTo hw.rom.slice 2 3000 := {
    getslice := fun i hi => by
      have hl : BitVec.ofNat 32 (2 + i) + 1 - 1 < (4096 : Word) := by bv_omega
      exact List.find?_cons_of_pos <| by
        simpa [Region.slice, HardwareParams.rom, hw, defaultParameters] using hl
    noWrap   := by omega
    valid    := by
      have hl : (t.ctx.memory 0).length = 4096 := loadFile_length _ _
      have hs : hw.rom.slice.data = ⟨0, 0⟩ ∧
          hw.rom.slice.endAddr.toNat - hw.rom.slice.beginAddr.toNat = 4096 := by decide
      rw [Heap.Valid, hs.left, hs.right, hl]
  }
  exact (transports_state noHost Md5.digest (fun _ => []) t).right hw.rom.slice 2 3000 (by decide) hm
