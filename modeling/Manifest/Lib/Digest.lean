import Manifest.Lib.PyValue

/-!
# SHA-256

The digest itself, over lists of bytes and 32-bit words as natural numbers.  The
results of this development hold for every digest; this one is what the host
really computes.
-/

set_option autoImplicit false

namespace Digest

/-- The first 32 bits of the fractional parts of the cube roots of the first primes. -/
def roundConstants : List Nat :=
  [ 0x428a2f98, 0x71374491, 0xb5c0fbcf, 0xe9b5dba5, 0x3956c25b, 0x59f111f1, 0x923f82a4,
    0xab1c5ed5, 0xd807aa98, 0x12835b01, 0x243185be, 0x550c7dc3, 0x72be5d74, 0x80deb1fe,
    0x9bdc06a7, 0xc19bf174, 0xe49b69c1, 0xefbe4786, 0x0fc19dc6, 0x240ca1cc, 0x2de92c6f,
    0x4a7484aa, 0x5cb0a9dc, 0x76f988da, 0x983e5152, 0xa831c66d, 0xb00327c8, 0xbf597fc7,
    0xc6e00bf3, 0xd5a79147, 0x06ca6351, 0x14292967, 0x27b70a85, 0x2e1b2138, 0x4d2c6dfc,
    0x53380d13, 0x650a7354, 0x766a0abb, 0x81c2c92e, 0x92722c85, 0xa2bfe8a1, 0xa81a664b,
    0xc24b8b70, 0xc76c51a3, 0xd192e819, 0xd6990624, 0xf40e3585, 0x106aa070, 0x19a4c116,
    0x1e376c08, 0x2748774c, 0x34b0bcb5, 0x391c0cb3, 0x4ed8aa4a, 0x5b9cca4f, 0x682e6ff3,
    0x748f82ee, 0x78a5636f, 0x84c87814, 0x8cc70208, 0x90befffa, 0xa4506ceb, 0xbef9a3f7,
    0xc67178f2 ]

/-- The chaining value. -/
structure Chain where
  a : Nat
  b : Nat
  c : Nat
  d : Nat
  e : Nat
  f : Nat
  g : Nat
  h : Nat

def initial : Chain :=
  ⟨0x6a09e667, 0xbb67ae85, 0x3c6ef372, 0xa54ff53a, 0x510e527f, 0x9b05688c, 0x1f83d9ab,
    0x5be0cd19⟩

/-- Addition of words. -/
def add (x y : Nat) : Nat :=
  (x + y) % 4294967296

/-- Rotate a word to the right. -/
def rotr (n x : Nat) : Nat :=
  x / 2 ^ n + x % 2 ^ n * 2 ^ (32 - n)

/-- The complement of a word. -/
def complement (x : Nat) : Nat :=
  4294967295 - x

/-- One round under a constant and a schedule word. -/
def round (s : Chain) (constant word : Nat) : Chain :=
  let s1 := rotr 6 s.e ^^^ rotr 11 s.e ^^^ rotr 25 s.e
  let choice := (s.e &&& s.f) ^^^ (complement s.e &&& s.g)
  let t1 := (s.h + s1 + choice + constant + word) % 4294967296
  let s0 := rotr 2 s.a ^^^ rotr 13 s.a ^^^ rotr 22 s.a
  let majority := (s.a &&& s.b) ^^^ (s.a &&& s.c) ^^^ (s.b &&& s.c)
  ⟨add t1 (add s0 majority), s.a, s.b, s.c, add s.d t1, s.e, s.f, s.g⟩

/-- The next schedule word, from the sixteen before it. -/
def nextWord (window : List Nat) : Nat :=
  let w0 := window.getD 0 0
  let w1 := window.getD 1 0
  let w9 := window.getD 9 0
  let w14 := window.getD 14 0
  let s0 := rotr 7 w1 ^^^ rotr 18 w1 ^^^ (w1 / 2 ^ 3)
  let s1 := rotr 17 w14 ^^^ rotr 19 w14 ^^^ (w14 / 2 ^ 10)
  (w0 + s0 + w9 + s1) % 4294967296

/-- Run the rounds, sliding a window of sixteen schedule words along. -/
def rounds : List Nat → List Nat → Chain → Chain
  | [], _, s => s
  | constant :: constants, window, s =>
      rounds constants (window.tail ++ [nextWord window])
        (round s constant (window.headD 0))

/-- Compress one block of sixteen words. -/
def compress (s : Chain) (block : List Nat) : Chain :=
  let r := rounds roundConstants block s
  ⟨add s.a r.a, add s.b r.b, add s.c r.c, add s.d r.d, add s.e r.e, add s.f r.f,
    add s.g r.g, add s.h r.h⟩

/-- A number as big-endian bytes. -/
def bigEndian (width n : Nat) : List Nat :=
  (List.range width).map fun i => n / 256 ^ (width - 1 - i) % 256

/-- Pad a message to whole blocks of 64 bytes. -/
def pad (message : List Nat) : List Nat :=
  let zeros := (55 + 64 - message.length % 64) % 64
  message ++ 128 :: List.replicate zeros 0 ++ bigEndian 8 (message.length * 8)

/-- Group bytes into big-endian words. -/
def words : List Nat → List Nat
  | a :: b :: c :: d :: rest => (((a * 256 + b) * 256 + c) * 256 + d) :: words rest
  | _ => []

/-- Fold the compression over the blocks; `fuel` bounds their number. -/
def absorb : Nat → List Nat → Chain → Chain
  | 0, _, s => s
  | fuel + 1, schedule, s =>
      if schedule.isEmpty then s
      else absorb fuel (schedule.drop 16) (compress s (schedule.take 16))

/-- The hexadecimal text of a chaining value. -/
def Chain.hex (s : Chain) : String :=
  String.ofList (([s.a, s.b, s.c, s.d, s.e, s.f, s.g, s.h].flatMap (bigEndian 4)).flatMap
    fun byte => [Value.hexDigit (byte / 16), Value.hexDigit (byte % 16)])

/-- The digest of a message. -/
def sha256 (message : List Nat) : String :=
  let schedule := words (pad message)
  (absorb schedule.length schedule initial).hex

/-- A digest is 64 digits long. -/
theorem length_sha256 (message : List Nat) : (sha256 message).toList.length = 64 := by
  have hflat {α β : Type} (f : α → List β) (k : Nat) (hf : ∀ a, (f a).length = k) (xs : List α) :
      (xs.flatMap f).length = k * xs.length := by
    induction xs with
    | nil => rfl
    | cons x xs ih => rw [List.flatMap_cons, List.length_append, hf, ih, List.length_cons, Nat.mul_succ,
        Nat.add_comm]
  have hbytes (n : Nat) : (bigEndian 4 n).length = 4 := by
    simp [bigEndian]
  rw [sha256, Chain.hex, String.toList_ofList, hflat _ 2 fun _ => rfl, hflat _ 4 hbytes]
  rfl

/-- The UTF-8 bytes of a text. -/
def utf8 (text : String) : List Nat :=
  text.toByteArray.data.toList.map (·.toNat)

example : sha256 (utf8 "abc") =
    "ba7816bf8f01cfea414140de5dae2223b00361a396177a9cb410ff61f20015ad" := by
  decide +kernel

end Digest
