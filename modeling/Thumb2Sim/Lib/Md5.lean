import Thumb2Sim.Lib.Bytes

-- The message digest MD5.
namespace Md5

structure State where
  a : BitVec 32
  b : BitVec 32
  c : BitVec 32
  d : BitVec 32
deriving DecidableEq

def init : State where
  a := 0x67452301
  b := 0xefcdab89
  c := 0x98badcfe
  d := 0x10325476

def constants : List (BitVec 32) :=
  [
   0xd76aa478, 0xe8c7b756, 0x242070db, 0xc1bdceee, 0xf57c0faf, 0x4787c62a, 0xa8304613, 0xfd469501,
   0x698098d8, 0x8b44f7af, 0xffff5bb1, 0x895cd7be, 0x6b901122, 0xfd987193, 0xa679438e, 0x49b40821,
   0xf61e2562, 0xc040b340, 0x265e5a51, 0xe9b6c7aa, 0xd62f105d, 0x02441453, 0xd8a1e681, 0xe7d3fbc8,
   0x21e1cde6, 0xc33707d6, 0xf4d50d87, 0x455a14ed, 0xa9e3e905, 0xfcefa3f8, 0x676f02d9, 0x8d2a4c8a,
   0xfffa3942, 0x8771f681, 0x6d9d6122, 0xfde5380c, 0xa4beea44, 0x4bdecfa9, 0xf6bb4b60, 0xbebfbc70,
   0x289b7ec6, 0xeaa127fa, 0xd4ef3085, 0x04881d05, 0xd9d4d039, 0xe6db99e5, 0x1fa27cf8, 0xc4ac5665,
   0xf4292244, 0x432aff97, 0xab9423a7, 0xfc93a039, 0x655b59c3, 0x8f0ccc92, 0xffeff47d, 0x85845dd1,
   0x6fa87e4f, 0xfe2ce6e0, 0xa3014314, 0x4e0811a1, 0xf7537e82, 0xbd3af235, 0x2ad7d2bb, 0xeb86d391
  ]

-- The four rounds have 16 steps each.
def shifts : Nat → List Nat
  | 0 => [7, 12, 17, 22]
  | 1 => [5, 9, 14, 20]
  | 2 => [4, 11, 16, 23]
  | _ => [6, 10, 15, 21]

-- The word of the block that a step takes.
def index (i : Nat) : Nat :=
  match i / 16 with
  | 0 => i % 16
  | 1 => (5 * i + 1) % 16
  | 2 => (3 * i + 5) % 16
  | _ => 7 * i % 16

def mix (round : Nat) (x y z : BitVec 32) : BitVec 32 :=
  match round with
  | 0 => z ^^^ (x &&& (y ^^^ z))
  | 1 => y ^^^ (z &&& (x ^^^ y))
  | 2 => x ^^^ y ^^^ z
  | _ => y ^^^ (x ||| ~~~z)

def step (block : List (BitVec 32)) (s : State) (i : Nat) : State :=
  let sum := s.a + mix (i / 16) s.b s.c s.d + block.getD (index i) 0 + constants.getD i 0
  { a := s.d, b := sum.rotateLeft ((shifts <| i / 16).getD (i % 4) 0) + s.b, c := s.b, d := s.c }

def transform (s : State) (block : List (BitVec 32)) : State :=
  let s' := (List.range 64).foldl (step block) s
  { a := s.a + s'.a, b := s.b + s'.b, c := s.c + s'.c, d := s.d + s'.d }

-- A one bit, as many zeros as needed, and the number of bits of the message.
def pad (message : List (BitVec 8)) : List (BitVec 8) :=
  message ++ [0x80] ++ List.replicate ((119 - message.length % 64) % 64) 0 ++
    Bytes.ofNat 8 (8 * message.length)

-- The words of a message, with the lowest byte first.
def words (bytes : List (BitVec 8)) : List (BitVec 32) :=
  (List.range (bytes.length / 4)).map fun i =>
    BitVec.ofNat 32 <| Bytes.toNat <| (bytes.drop (4 * i)).take 4

def run (message : List (BitVec 8)) : State :=
  let ws := words <| pad message
  (List.range (ws.length / 16)).foldl (fun s i => transform s <| (ws.drop (16 * i)).take 16) init

def digest (message : List (BitVec 8)) : Vector (BitVec 8) 16 :=
  let s := run message
  Vector.ofFn fun i => ([s.a, s.b, s.c, s.d].getD (i / 4) 0).extractLsb' (8 * (i % 4)) 8

end Md5
