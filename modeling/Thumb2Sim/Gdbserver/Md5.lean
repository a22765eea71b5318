import Thumb2Sim.AddressSpace.Basic
import Thumb2Sim.Lib.Md5

-- The MD5 implementation of the server. The type `MD5_u32plus` is `unsigned int`, and
-- `unsigned long` has 64 bits.
namespace Md5Ctx

-- The names of the fields `a` to `d` of the context, which are also local variables of `body`.
inductive Var
  | a
  | b
  | c
  | d
deriving DecidableEq

abbrev Vars :=
  Md5.State

def Var.get (vars : Vars) : Var → Word
  | a => vars.a
  | b => vars.b
  | c => vars.c
  | d => vars.d

def Var.set (vars : Vars) (x : Word) : Var → Vars
  | a => { vars with a := x }
  | b => { vars with b := x }
  | c => { vars with c := x }
  | d => { vars with d := x }

-- The basic functions.

def F (x y z : Word) : Word :=
  z ^^^ (x &&& (y ^^^ z))

def G (x y z : Word) : Word :=
  y ^^^ (z &&& (x ^^^ y))

def H (x y z : Word) : Word :=
  x ^^^ y ^^^ z

def H2 (x y z : Word) : Word :=
  x ^^^ (y ^^^ z)

def I (x y z : Word) : Word :=
  y ^^^ (x ||| ~~~z)

-- The arguments of the macro `STEP`. The word of the block is given by its number.
structure Step where
  f : Word → Word → Word → Word
  a : Var
  b : Var
  c : Var
  d : Var
  x : Nat
  t : Word
  s : Nat

-- On hosts with little-endian byte order.
def get (ptr : List Byte) (n : Nat) : Word :=
  BitVec.ofNat 32 <| Bytes.toNat <| (ptr.drop (n * 4)).take 4

def Step.perform (ptr : List Byte) (vars : Vars) (step : Step) : Vars :=
  let a := step.a.get vars
  let b := step.b.get vars
  let a := a + (step.f b (step.c.get vars) (step.d.get vars) + get ptr step.x + step.t)
  let a := a <<< step.s ||| (a &&& 0xffffffff) >>> (32 - step.s)
  let a := a + b
  step.a.set vars a

section

open Md5Ctx.Var

def round1 : List Step :=
  [⟨F, a, b, c, d, 0, 0xd76aa478, 7⟩,
   ⟨F, d, a, b, c, 1, 0xe8c7b756, 12⟩,
   ⟨F, c, d, a, b, 2, 0x242070db, 17⟩,
   ⟨F, b, c, d, a, 3, 0xc1bdceee, 22⟩,
   ⟨F, a, b, c, d, 4, 0xf57c0faf, 7⟩,
   ⟨F, d, a, b, c, 5, 0x4787c62a, 12⟩,
   ⟨F, c, d, a, b, 6, 0xa8304613, 17⟩,
   ⟨F, b, c, d, a, 7, 0xfd469501, 22⟩,
   ⟨F, a, b, c, d, 8, 0x698098d8, 7⟩,
   ⟨F, d, a, b, c, 9, 0x8b44f7af, 12⟩,
   ⟨F, c, d, a, b, 10, 0xffff5bb1, 17⟩,
   ⟨F, b, c, d, a, 11, 0x895cd7be, 22⟩,
   ⟨F, a, b, c, d, 12, 0x6b901122, 7⟩,
   ⟨F, d, a, b, c, 13, 0xfd987193, 12⟩,
   ⟨F, c, d, a, b, 14, 0xa679438e, 17⟩,
   ⟨F, b, c, d, a, 15, 0x49b40821, 22⟩]

def round2 : List Step :=
  [⟨G, a, b, c, d, 1, 0xf61e2562, 5⟩,
   ⟨G, d, a, b, c, 6, 0xc040b340, 9⟩,
   ⟨G, c, d, a, b, 11, 0x265e5a51, 14⟩,
   ⟨G, b, c, d, a, 0, 0xe9b6c7aa, 20⟩,
   ⟨G, a, b, c, d, 5, 0xd62f105d, 5⟩,
   ⟨G, d, a, b, c, 10, 0x02441453, 9⟩,
   ⟨G, c, d, a, b, 15, 0xd8a1e681, 14⟩,
   ⟨G, b, c, d, a, 4, 0xe7d3fbc8, 20⟩,
   ⟨G, a, b, c, d, 9, 0x21e1cde6, 5⟩,
   ⟨G, d, a, b, c, 14, 0xc33707d6, 9⟩,
   ⟨G, c, d, a, b, 3, 0xf4d50d87, 14⟩,
   ⟨G, b, c, d, a, 8, 0x455a14ed, 20⟩,
   ⟨G, a, b, c, d, 13, 0xa9e3e905, 5⟩,
   ⟨G, d, a, b, c, 2, 0xfcefa3f8, 9⟩,
   ⟨G, c, d, a, b, 7, 0x676f02d9, 14⟩,
   ⟨G, b, c, d, a, 12, 0x8d2a4c8a, 20⟩]

def round3 : List Step :=
  [⟨H, a, b, c, d, 5, 0xfffa3942, 4⟩,
   ⟨H2, d, a, b, c, 8, 0x8771f681, 11⟩,
   ⟨H, c, d, a, b, 11, 0x6d9d6122, 16⟩,
   ⟨H2, b, c, d, a, 14, 0xfde5380c, 23⟩,
   ⟨H, a, b, c, d, 1, 0xa4beea44, 4⟩,
   ⟨H2, d, a, b, c, 4, 0x4bdecfa9, 11⟩,
   ⟨H, c, d, a, b, 7, 0xf6bb4b60, 16⟩,
   ⟨H2, b, c, d, a, 10, 0xbebfbc70, 23⟩,
   ⟨H, a, b, c, d, 13, 0x289b7ec6, 4⟩,
   ⟨H2, d, a, b, c, 0, 0xeaa127fa, 11⟩,
   ⟨H, c, d, a, b, 3, 0xd4ef3085, 16⟩,
   ⟨H2, b, c, d, a, 6, 0x04881d05, 23⟩,
   ⟨H, a, b, c, d, 9, 0xd9d4d039, 4⟩,
   ⟨H2, d, a, b, c, 12, 0xe6db99e5, 11⟩,
   ⟨H, c, d, a, b, 15, 0x1fa27cf8, 16⟩,
   ⟨H2, b, c, d, a, 2, 0xc4ac5665, 23⟩]

def round4 : List Step :=
  [⟨I, a, b, c, d, 0, 0xf4292244, 6⟩,
   ⟨I, d, a, b, c, 7, 0x432aff97, 10⟩,
   ⟨I, c, d, a, b, 14, 0xab9423a7, 15⟩,
   ⟨I, b, c, d, a, 5, 0xfc93a039, 21⟩,
   ⟨I, a, b, c, d, 12, 0x655b59c3, 6⟩,
   ⟨I, d, a, b, c, 3, 0x8f0ccc92, 10⟩,
   ⟨I, c, d, a, b, 10, 0xffeff47d, 15⟩,
   ⟨I, b, c, d, a, 1, 0x85845dd1, 21⟩,
   ⟨I, a, b, c, d, 8, 0x6fa87e4f, 6⟩,
   ⟨I, d, a, b, c, 15, 0xfe2ce6e0, 10⟩,
   ⟨I, c, d, a, b, 6, 0xa3014314, 15⟩,
   ⟨I, b, c, d, a, 13, 0x4e0811a1, 21⟩,
   ⟨I, a, b, c, d, 4, 0xf7537e82, 6⟩,
   ⟨I, d, a, b, c, 11, 0xbd3af235, 10⟩,
   ⟨I, c, d, a, b, 2, 0x2ad7d2bb, 15⟩,
   ⟨I, b, c, d, a, 9, 0xeb86d391, 21⟩]

end

def steps : List Step :=
  round1 ++ round2 ++ round3 ++ round4

-- The loop ends when the size has become zero. Reading behind the end of the data is undefined.
-- The result also holds the rest of the data.
def body (vars : Vars) (ptr : List Byte) (size : BitVec 64) :
    Except Undefined (Vars × List Byte) :=
  if 64 ≤ ptr.length then
    let saved := vars
    let vars := steps.foldl (Step.perform ptr) vars
    let vars := {
      a := vars.a + saved.a
      b := vars.b + saved.b
      c := vars.c + saved.c
      d := vars.d + saved.d
    }
    if size - 64 = 0 then
      .ok (vars, ptr.drop 64)
    else
      body vars (ptr.drop 64) (size - 64)
  else
    .error .access
termination_by ptr.length
decreasing_by
  rw [List.length_drop]
  omega

abbrev Buffer :=
  { bytes : List Byte // bytes.length = 64 }

namespace Buffer

variable (buffer : Buffer) (offset : Nat)

-- Copies `n` bytes to the given place of the buffer.
def memcpy (data : List Byte) (n : Nat) : Except Undefined Buffer :=
  if h : offset + n ≤ 64 ∧ n ≤ data.length then
    .ok ⟨buffer.val.take offset ++ data.take n ++ buffer.val.drop (offset + n), by
      have := buffer.property
      simp
      omega⟩
  else
    .error .access

def memset (value : Byte) (n : Nat) : Except Undefined Buffer :=
  buffer.memcpy offset (List.replicate n value) n

end Buffer

end Md5Ctx

-- The array `block` of the context is not used on hosts that can read the data's words directly.
structure Md5Ctx where
  lo     : Word
  hi     : Word
  vars   : Md5Ctx.Vars
  buffer : Md5Ctx.Buffer

namespace Md5Ctx

-- The buffer is left as it is.
def init (buffer : Buffer) : Md5Ctx where
  lo     := 0
  hi     := 0
  vars   := {
    a := 0x67452301
    b := 0xefcdab89
    c := 0x98badcfe
    d := 0x10325476
  }
  buffer := buffer

variable (ctx : Md5Ctx)

def count (size : BitVec 64) : Md5Ctx :=
  let savedLo := ctx.lo
  let lo := (savedLo.setWidth 64 + size &&& 0x1fffffff).setWidth 32
  let hi := if lo < savedLo then ctx.hi + 1 else ctx.hi
  let hi := hi + (size >>> 29).setWidth 32
  { ctx with lo, hi }

-- The part of `MD5_Update` behind the completion of the block in the buffer.
def updateBlocks (data : List Byte) (size : BitVec 64) : Except Undefined Md5Ctx :=
  if 64 ≤ size then do
    let (vars, data) ← body ctx.vars data (size &&& ~~~0x3f)
    let size := size &&& 0x3f
    return { ctx with vars, buffer := ← ctx.buffer.memcpy 0 data size.toNat }
  else do
    return { ctx with buffer := ← ctx.buffer.memcpy 0 data size.toNat }

def update (data : List Byte) (size : BitVec 64) : Except Undefined Md5Ctx :=
  let used := ctx.lo.toNat &&& 0x3f
  let ctx := ctx.count size
  if used ≠ 0 then
    let available := 64 - used
    if size.toNat < available then do
      return { ctx with buffer := ← ctx.buffer.memcpy used data size.toNat }
    else do
      let buffer ← ctx.buffer.memcpy used data available
      let (vars, _) ← body ctx.vars buffer.val 64
      let ctx := { ctx with vars, buffer }
      ctx.updateBlocks (data.drop available) (size - BitVec.ofNat 64 available)
  else
    ctx.updateBlocks data size

def out (src : Word) : List Byte :=
  [src.setWidth 8, (src >>> 8).setWidth 8, (src >>> 16).setWidth 8, (src >>> 24).setWidth 8]

-- The block that `MD5_Final` fills up with zeros if there is no room for the counters behind the
-- first `used` bytes. Then the next block begins with the counters' padding.
def finalBlock (used : Nat) (buffer : Buffer) : Except Undefined (Vars × Nat × Buffer) :=
  let available := 64 - used
  if available < 8 then do
    let buffer ← buffer.memset used 0 available
    let (vars, _) ← body ctx.vars buffer.val 64
    return (vars, 0, buffer)
  else
    return (ctx.vars, used, buffer)

-- At the end, the context is overwritten with zeros.
def final : Except Undefined (List Byte) := do
  let used := ctx.lo.toNat &&& 0x3f
  let buffer ← ctx.buffer.memcpy used [0x80] 1
  let (vars, used, buffer) ← ctx.finalBlock (used + 1) buffer
  let available := 64 - used
  let buffer ← buffer.memset used 0 (available - 8)
  let buffer ← buffer.memcpy 56 (out <| ctx.lo <<< 3) 4
  let buffer ← buffer.memcpy 60 (out ctx.hi) 4
  let (vars, _) ← body vars buffer.val 64
  return out vars.a ++ out vars.b ++ out vars.c ++ out vars.d

-- The three functions in the order in which they are called. The data comes in chunks.
def hash (buffer : Buffer) (chunks : List (List Byte)) : Except Undefined (List Byte) := do
  let ctx ← chunks.foldlM (fun ctx data => ctx.update data (BitVec.ofNat 64 data.length))
    (init buffer)
  ctx.final

end Md5Ctx
