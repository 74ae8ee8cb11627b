import Mathlib.Algebra.Ring.Nat
import Ax.Foundation.Text

/-!
# SHA-1

The digest of a byte string by the Secure Hash Algorithm 1, on 32-bit words with
wrap-around addition: the message is padded to blocks of 64 bytes, each block is extended to
80 words, and 80 rounds mix it into a state of five words.

Main results:

- Theorem `length_digest`: a digest has 20 bytes.
- Theorem `Hex.length_encode`: two digits for each byte.
-/

namespace Ax

namespace Hex

def digits (byte : UInt8) : List Char :=
  [Nat.digitChar (byte.toNat / 16), Nat.digitChar (byte.toNat % 16)]

/-- `hex::encode`. -/
def encode (bytes : List UInt8) : String :=
  String.ofList (bytes.flatMap digits)

/-- Two digits for each byte. -/
@[simp]
theorem length_encode (bytes : List UInt8) : (encode bytes).length = 2 * bytes.length := by
  have hdigits : (bytes.map fun byte => (digits byte).length).sum = 2 * bytes.length := by
    simp [digits, Nat.mul_comm]
  simpa [encode, List.length_flatMap] using hdigits

end Hex

namespace Sha1

structure State where
  a : UInt32
  b : UInt32
  c : UInt32
  d : UInt32
  e : UInt32
deriving DecidableEq, Repr

def initial : State :=
  ⟨0x67452301, 0xEFCDAB89, 0x98BADCFE, 0x10325476, 0xC3D2E1F0⟩

/-- Rotation to the left. -/
def rotl (word : UInt32) (n : Nat) : UInt32 :=
  word <<< n.toUInt32 ||| word >>> (32 - n).toUInt32

/-- The bytes of a number, the most significant one first. -/
def bigEndian (count n : Nat) : List UInt8 :=
  (List.range count).map fun i => (n / 256 ^ (count - 1 - i)).toUInt8

def pad (message : List UInt8) : List UInt8 :=
  message ++ 0x80 :: List.replicate ((119 - message.length % 64) % 64) 0 ++
    bigEndian 8 (8 * message.length)

def words : List UInt8 → List UInt32
  | a :: b :: c :: d :: rest =>
    (a.toUInt32 <<< 24 ||| b.toUInt32 <<< 16 ||| c.toUInt32 <<< 8 ||| d.toUInt32) :: words rest
  | _ => []

/-- Further words of a block.  The words are in reverse, so that the word `i` places before
the new one is the `i`-th of the list. -/
def extend : Nat → List UInt32 → List UInt32
  | 0, reversed => reversed
  | n + 1, reversed =>
    extend n (rotl (reversed.getD 2 0 ^^^ reversed.getD 7 0 ^^^ reversed.getD 13 0 ^^^
      reversed.getD 15 0) 1 :: reversed)

def schedule (block : List UInt32) : List UInt32 :=
  (extend 64 block.reverse).reverse

def mix (t : Nat) (b c d : UInt32) : UInt32 :=
  if t < 20 then (b &&& c ||| ~~~b &&& d) + 0x5A827999
  else if t < 40 then (b ^^^ c ^^^ d) + 0x6ED9EBA1
  else if t < 60 then (b &&& c ||| b &&& d ||| c &&& d) + 0x8F1BBCDC
  else (b ^^^ c ^^^ d) + 0xCA62C1D6

def round (s : State) (step : UInt32 × Nat) : State where
  a := rotl s.a 5 + mix step.2 s.b s.c s.d + s.e + step.1
  b := s.a
  c := rotl s.b 30
  d := s.c
  e := s.d

def compress (s : State) (block : List UInt32) : State :=
  let mixed := (schedule block).zipIdx.foldl round s
  ⟨s.a + mixed.a, s.b + mixed.b, s.c + mixed.c, s.d + mixed.d, s.e + mixed.e⟩

def compressAll : Nat → State → List UInt32 → State
  | 0, s, _ => s
  | n + 1, s, ws => compressAll n (compress s (ws.take 16)) (ws.drop 16)

def digest (message : List UInt8) : List UInt8 :=
  let ws := words (pad message)
  let s := compressAll (ws.length / 16) initial ws
  [s.a, s.b, s.c, s.d, s.e].flatMap fun word => bigEndian 4 word.toNat

/-- A digest has 20 bytes. -/
@[simp]
theorem length_digest (message : List UInt8) : (digest message).length = 20 := by
  simp [digest, bigEndian]

example : Hex.encode (digest "abc".toUTF8.toList) = "a9993e364706816aba3e25717850c26c9cd0d89d" := by
  decide +kernel

end Sha1
end Ax
