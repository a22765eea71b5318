import Thumb2Sim.Lib.Hex

-- Functions of Python on texts. A text is the list of the codes of its characters here, and the
-- functions fail where those of Python raise an exception.
namespace PyText

-- The methods `bytes.decode("ascii")` and `str.encode("ascii")`.
def ascii (data : List (BitVec 8)) : Option (List (BitVec 8)) :=
  if ∀ b ∈ data, b < 0x80 then some data else none

-- The characters that `str.isspace` is true for.
def isSpace (b : BitVec 8) : Bool :=
  Ascii.isSpace b ∨ 0x1c ≤ b ∧ b ≤ 0x1f

def stripHexPrefix : List (BitVec 8) → List (BitVec 8)
  | 0x30 :: 0x78 :: 0x5f :: s => s
  | 0x30 :: 0x58 :: 0x5f :: s => s
  | 0x30 :: 0x78 :: s         => s
  | 0x30 :: 0x58 :: s         => s
  | s                         => s

-- The value of the digits behind the digits of `x`. An underscore may stand between two of them.
def digitsValue (x : Nat) (behindDigit : Bool) : List (BitVec 8) → Option Nat
  | []      => if behindDigit then some x else none
  | b :: bs =>
    if b = 0x5f then
      if behindDigit then digitsValue x false bs else none
    else
      (Hex.digitValue b).bind fun d => digitsValue (16 * x + d) true bs

-- The function `int` for the base 16.
def int16 (s : List (BitVec 8)) : Option Int :=
  let (negative, s) := Ascii.stripSign <| s.dropWhile isSpace |>.rdropWhile isSpace
  (digitsValue 0 false <| stripHexPrefix s).map fun n => if negative then -n else n

-- The method `bytes.fromhex`.
def fromHex : List (BitVec 8) → Option (List (BitVec 8))
  | []      => some []
  | [b]     => if Ascii.isSpace b then some [] else none
  | b :: c :: s =>
    if Ascii.isSpace b then
      fromHex (c :: s)
    else do
      let byte := 16 * (← Hex.digitValue b) + (← Hex.digitValue c)
      return BitVec.ofNat 8 byte :: (← fromHex s)

variable {s : List (BitVec 8)} {b : BitVec 8} {x : Nat}

theorem lt_of_isDigit (h : Hex.IsDigit b) : b < 0x80 := by
  revert b
  decide

theorem not_isSpace_of_isDigit (h : Hex.IsDigit b) : isSpace b = false := by
  revert b
  decide

theorem ne_underscore_of_isDigit (h : Hex.IsDigit b) : b ≠ 0x5f := by
  rintro rfl
  exact absurd h (by decide)

theorem ascii_of_isDigit (h : ∀ b ∈ s, Hex.IsDigit b) : ascii s = some s :=
  if_pos fun b hb => lt_of_isDigit <| h b hb

theorem digitsValue_of_isDigit (h : ∀ b ∈ s, Hex.IsDigit b) (behindDigit : Bool) :
    digitsValue x behindDigit s =
      if s = [] ∧ behindDigit = false then none else some (Hex.prefixValue x s) := by
  induction s generalizing x behindDigit
  case nil => cases behindDigit <;> rfl
  case cons b s hi =>
    have hb := h b List.mem_cons_self
    obtain ⟨d, hd⟩ := Option.isSome_iff_exists.mp hb
    have hs : ∀ c ∈ s, Hex.IsDigit c := fun c hc => h c <| List.mem_cons_of_mem _ hc
    rw [digitsValue, if_neg <| ne_underscore_of_isDigit hb, hd, Hex.prefixValue_cons hd]
    simpa using hi hs true

theorem stripHexPrefix_of_isDigit (h : ∀ b ∈ s, Hex.IsDigit b) : stripHexPrefix s = s := by
  unfold stripHexPrefix
  split
  case h_1 | h_3 => exact absurd (h 0x78 <| by simp) (by decide)
  case h_2 | h_4 => exact absurd (h 0x58 <| by simp) (by decide)
  case h_5       => rfl

theorem int16_of_isDigit (h : ∀ b ∈ s, Hex.IsDigit b) (hs : s ≠ []) :
    int16 s = some (Hex.prefixValue 0 s : Int) := by
  have hr : s.rdropWhile isSpace = s := by
    have hb : ∀ b ∈ s.reverse, Hex.IsDigit b := fun b hb => h b <| List.mem_reverse.mp hb
    rw [List.rdropWhile, Hex.dropWhile_of_isDigit (fun _ => not_isSpace_of_isDigit) hb,
      List.reverse_reverse]
  rw [int16, Hex.dropWhile_of_isDigit (fun _ => not_isSpace_of_isDigit) h, hr,
    Hex.stripSign_of_isDigit h]
  simp only [stripHexPrefix_of_isDigit h, digitsValue_of_isDigit h, hs, false_and, if_false]
  rfl

theorem fromHex_ofBytes : fromHex (Hex.ofBytes s) = some s := by
  induction s
  case nil => rfl
  case cons b s hi =>
    have hb := b.isLt
    have hh := Hex.digitValue_digit (d := b.toNat / 16) (by omega)
    have hl := Hex.digitValue_digit (d := b.toNat % 16) (by omega)
    have hn := Hex.not_isSpace_of_isDigit <| Hex.isDigit_digit (d := b.toNat / 16) (by omega)
    change fromHex (Hex.digit (b.toNat / 16) :: Hex.digit (b.toNat % 16) :: Hex.ofBytes s) = _
    rw [fromHex, if_neg (by simp [hn]), hh, hl, hi]
    simp [Nat.div_add_mod]

end PyText
