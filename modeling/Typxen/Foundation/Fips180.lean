import Mathlib.Data.List.GetD
import Typxen.Foundation.ByteString

/-! # SHA-256

The secure hash standard for messages of whole bytes: the six functions, the
message schedule, the padding and the chain of hash values over the blocks of
the padded message. -/

namespace Fips180

open ByteString

/-! ## Functions and constants -/

def rotr (count word : UInt32) : UInt32 :=
  (word >>> count) ||| (word <<< (32 - count))

def ch (x y z : UInt32) : UInt32 := (x &&& y) ^^^ (~~~x &&& z)

def maj (x y z : UInt32) : UInt32 := (x &&& y) ^^^ (x &&& z) ^^^ (y &&& z)

def bigSigma0 (x : UInt32) : UInt32 := rotr 2 x ^^^ rotr 13 x ^^^ rotr 22 x

def bigSigma1 (x : UInt32) : UInt32 := rotr 6 x ^^^ rotr 11 x ^^^ rotr 25 x

def smallSigma0 (x : UInt32) : UInt32 := rotr 7 x ^^^ rotr 18 x ^^^ (x >>> 3)

def smallSigma1 (x : UInt32) : UInt32 := rotr 17 x ^^^ rotr 19 x ^^^ (x >>> 10)

def squareRoots : Array UInt32 :=
  #[0x6a09e667, 0xbb67ae85, 0x3c6ef372, 0xa54ff53a,
    0x510e527f, 0x9b05688c, 0x1f83d9ab, 0x5be0cd19]

def initialHash : Vector UInt32 8 := ⟨squareRoots, rfl⟩

def cubeRoots : Array UInt32 :=
  #[0x428a2f98, 0x71374491, 0xb5c0fbcf, 0xe9b5dba5,
    0x3956c25b, 0x59f111f1, 0x923f82a4, 0xab1c5ed5,
    0xd807aa98, 0x12835b01, 0x243185be, 0x550c7dc3,
    0x72be5d74, 0x80deb1fe, 0x9bdc06a7, 0xc19bf174,
    0xe49b69c1, 0xefbe4786, 0x0fc19dc6, 0x240ca1cc,
    0x2de92c6f, 0x4a7484aa, 0x5cb0a9dc, 0x76f988da,
    0x983e5152, 0xa831c66d, 0xb00327c8, 0xbf597fc7,
    0xc6e00bf3, 0xd5a79147, 0x06ca6351, 0x14292967,
    0x27b70a85, 0x2e1b2138, 0x4d2c6dfc, 0x53380d13,
    0x650a7354, 0x766a0abb, 0x81c2c92e, 0x92722c85,
    0xa2bfe8a1, 0xa81a664b, 0xc24b8b70, 0xc76c51a3,
    0xd192e819, 0xd6990624, 0xf40e3585, 0x106aa070,
    0x19a4c116, 0x1e376c08, 0x2748774c, 0x34b0bcb5,
    0x391c0cb3, 0x4ed8aa4a, 0x5b9cca4f, 0x682e6ff3,
    0x748f82ee, 0x78a5636f, 0x84c87814, 0x8cc70208,
    0x90befffa, 0xa4506ceb, 0xbef9a3f7, 0xc67178f2]

def roundConstants : Vector UInt32 64 := ⟨cubeRoots, rfl⟩

/-- Both tables are fractional parts of roots of the first primes, square
roots for the hash value and cube roots for the rounds. -/
def primes (bound : Nat) : List Nat :=
  (List.range bound).filter fun number =>
    2 ≤ number && (List.range number).all fun divisor =>
      divisor < 2 || number % divisor != 0

example : ∀ index : Fin 8, ∃ whole ∈ List.range 5,
    let root := whole * 2 ^ 32 + initialHash[index].toNat
    root ^ 2 ≤ (primes 20)[index]! * 2 ^ 64 ∧
      (primes 20)[index]! * 2 ^ 64 < (root + 1) ^ 2 := by
  decide +kernel

example : ∀ index : Fin 64, ∃ whole ∈ List.range 7,
    let root := whole * 2 ^ 32 + roundConstants[index].toNat
    root ^ 3 ≤ (primes 312)[index]! * 2 ^ 96 ∧
      (primes 312)[index]! * 2 ^ 96 < (root + 1) ^ 3 := by
  decide +kernel

/-! ## One block -/

def wordAt (block : Vector UInt8 64) (index : Fin 16) : UInt32 :=
  UInt32.ofNat (block[4 * index.val].toNat * 2 ^ 24 +
    block[4 * index.val + 1].toNat * 2 ^ 16 +
    block[4 * index.val + 2].toNat * 2 ^ 8 + block[4 * index.val + 3].toNat)

def schedule (block : Vector UInt8 64) (index : Nat) : UInt32 :=
  if first : index < 16 then
    wordAt block ⟨index, first⟩
  else
    smallSigma1 (schedule block (index - 2)) + schedule block (index - 7) +
      smallSigma0 (schedule block (index - 15)) + schedule block (index - 16)
termination_by index

structure Working where
  a : UInt32
  b : UInt32
  c : UInt32
  d : UInt32
  e : UInt32
  f : UInt32
  g : UInt32
  h : UInt32

def round (constant word : UInt32) (working : Working) : Working :=
  let temporary1 := working.h + bigSigma1 working.e +
    ch working.e working.f working.g + constant + word
  let temporary2 := bigSigma0 working.a + maj working.a working.b working.c
  { a := temporary1 + temporary2
    b := working.a
    c := working.b
    d := working.c
    e := working.d + temporary1
    f := working.e
    g := working.f
    h := working.g }

def loadWorking (hash : Vector UInt32 8) : Working :=
  ⟨hash.get 0, hash.get 1, hash.get 2, hash.get 3, hash.get 4, hash.get 5,
    hash.get 6, hash.get 7⟩

def addWorking (working : Working) (hash : Vector UInt32 8) : Vector UInt32 8 :=
  #v[working.a + hash.get 0, working.b + hash.get 1, working.c + hash.get 2,
    working.d + hash.get 3, working.e + hash.get 4, working.f + hash.get 5,
    working.g + hash.get 6, working.h + hash.get 7]

def rounds (words : Nat → UInt32) (count : Nat) (working : Working) : Working :=
  (List.range count).foldl
    (fun working index => round roundConstants[index]! (words index) working)
    working

def compress (hash : Vector UInt32 8) (block : Vector UInt8 64) :
    Vector UInt32 8 :=
  addWorking (rounds (schedule block) 64 (loadWorking hash)) hash

/-! ## Messages -/

def chain (bytes : List UInt8) : (count : Nat) → Vector UInt32 8
  | 0 => initialHash
  | count + 1 => compress (chain bytes count) (block bytes (64 * count) 64)

/-- The fewest zero bytes that leave eight before the end of a block. -/
def zeroCount (length : Nat) : Nat := (119 - length % 64) % 64

def lengthBytes (bits : Nat) : List UInt8 :=
  (List.range 8).map fun index => UInt8.ofNat (bits / 256 ^ (7 - index))

def pad (message : List UInt8) : List UInt8 :=
  message ++ 0x80 :: List.replicate (zeroCount message.length) 0 ++
    lengthBytes (8 * message.length)

def digest (hash : Vector UInt32 8) : Vector UInt8 32 :=
  Vector.ofFn fun index =>
    UInt8.ofNat (hash[index.val / 4]!.toNat / 256 ^ (3 - index.val % 4))

def sha256 (message : List UInt8) : Vector UInt8 32 :=
  digest (chain (pad message) ((pad message).length / 64))

/-! ## The chain -/

theorem chain_append (bytes more : List UInt8) {count : Nat}
    (within : 64 * count ≤ bytes.length) :
    chain (bytes ++ more) count = chain bytes count := by
  induction count with
  | zero => rfl
  | succ count induction =>
      have same : block (bytes ++ more) (64 * count) 64 =
          block bytes (64 * count) 64 := by
        apply block_congr
        intro index _ upper
        exact List.getD_append _ _ _ _ (by omega)
      rw [chain, chain, induction (by omega), same]

/-! ## The padding -/

@[simp] theorem lengthBytes_length (bits : Nat) :
    (lengthBytes bits).length = 8 := by
  simp [lengthBytes]

theorem pad_length (message : List UInt8) :
    (pad message).length =
      message.length + 9 + zeroCount message.length := by
  simp only [pad, List.length_append, List.length_cons, List.length_replicate,
    lengthBytes_length]
  omega

theorem pad_message (message : List UInt8) {index : Nat}
    (within : index < message.length) :
    byteAt (pad message) index = byteAt message index := by
  rw [pad, List.append_assoc, byteAt, List.getD_append _ _ _ _ within, byteAt]

theorem pad_marker (message : List UInt8) :
    byteAt (pad message) message.length = 0x80 := by
  rw [pad, List.append_assoc, byteAt,
    List.getD_append_right _ _ _ _ (Nat.le_refl _), Nat.sub_self]
  rfl

theorem pad_zero (message : List UInt8) {index : Nat}
    (lower : message.length < index)
    (upper : index + 8 < (pad message).length) :
    byteAt (pad message) index = 0 := by
  rw [pad_length] at upper
  rw [pad, List.append_assoc, byteAt,
    List.getD_append_right _ _ _ _ (by omega), List.cons_append,
    show index - message.length = (index - message.length - 1) + 1 by omega,
    List.getD_cons_succ, List.getD_append _ _ _ _ (by simp; omega),
    List.getD_replicate _ (by omega)]

theorem pad_size (message : List UInt8) {index : Nat} (within : index < 8) :
    byteAt (pad message) ((pad message).length - 8 + index) =
      UInt8.ofNat (8 * message.length / 256 ^ (7 - index)) := by
  have front : (message ++ 0x80 :: List.replicate (zeroCount message.length)
      (0 : UInt8)).length = (pad message).length - 8 := by
    rw [pad_length, List.length_append, List.length_cons, List.length_replicate]
    omega
  rw [byteAt, ← front, pad, List.getD_append_right _ _ _ _ (by omega),
    Nat.add_sub_cancel_left, lengthBytes, List.getD_eq_getElem _ _ (by simpa)]
  simp

end Fips180
