import Typxen.Foundation.Fips180

/-! # The portable SHA-256 provider

`typx_sha256_portable.c`. The contents of a local array before its first
write are taken to be zero; every entry is written before it is read. -/

namespace Typxen.Sha256

def initialState : Vector UInt32 8 :=
  #v[0x6a09e667, 0xbb67ae85, 0x3c6ef372, 0xa54ff53a,
    0x510e527f, 0x9b05688c, 0x1f83d9ab, 0x5be0cd19]

def roundConstants : Vector UInt32 64 :=
  #v[0x428a2f98, 0x71374491, 0xb5c0fbcf, 0xe9b5dba5,
    0x3956c25b, 0x59f111f1, 0x923f82a4, 0xab1c5ed5,
    0xd807aa98, 0x12835b01, 0x243185be, 0x550c7dc3,
    0x72be5d74, 0x80deb1fe, 0x9bdc06a7, 0xc19bf174,
    0xe49b69c1, 0xefbe4786, 0x0fc19dc6, 0x240ca1cc,
    0x2de92c6f, 0x4a7484aa, 0x5cb0a9dc, 0x76f988da,
    0x983e5152, 0xa831c66d, 0xb00327c8, 0xbf597fc7,
    0xc6e00bf3, 0xd5a79147, 0x06ca6351, 0x14292967,
    0x27b70a85, 0x2e1b2138, 0x4d2c6dfc, 0x53380d13,
    0x650a7354, 0x766a0abb, 0x81c2c92e, 0x92722c85,
    0xa2bfe8a1, 0xa81a664b, 0xc24b8b70, 0xc76c51a3,
    0xd192e819, 0xd6990624, 0xf40e3585, 0x106aa070,
    0x19a4c116, 0x1e376c08, 0x2748774c, 0x34b0bcb5,
    0x391c0cb3, 0x4ed8aa4a, 0x5b9cca4f, 0x682e6ff3,
    0x748f82ee, 0x78a5636f, 0x84c87814, 0x8cc70208,
    0x90befffa, 0xa4506ceb, 0xbef9a3f7, 0xc67178f2]

def rotateRight (value shift : UInt32) : UInt32 :=
  (value >>> shift) ||| (value <<< (32 - shift))

/-- `read_u32_be(bytes + offset)`. -/
def readU32Be (bytes : Vector UInt8 64) (offset : Nat) : UInt32 :=
  (bytes[offset]!.toUInt32 <<< 24) ||| (bytes[offset + 1]!.toUInt32 <<< 16) |||
    (bytes[offset + 2]!.toUInt32 <<< 8) ||| bytes[offset + 3]!.toUInt32

def writeU32Be (value : UInt32) : Vector UInt8 4 :=
  #v[(value >>> 24).toUInt8, (value >>> 16).toUInt8, (value >>> 8).toUInt8,
    value.toUInt8]

/-- `typx_sha256_portable_context_t`. -/
structure PortableContext where
  state : Vector UInt32 8
  totalBytes : UInt64
  block : Vector UInt8 64
  blockBytes : Nat

structure ReadyContext extends PortableContext where
  within : blockBytes < 64

/-! ## One block -/

/-- The body of the first loop over `words`. -/
def loadWord (block : Vector UInt8 64) (words : Vector UInt32 64)
    (index : Nat) : Vector UInt32 64 :=
  words.set! index (readU32Be block (index * 4))

/-- The body of the second loop over `words`. -/
def extendWord (words : Vector UInt32 64) (index : Nat) : Vector UInt32 64 :=
  let first := words[index - 15]!
  let second := words[index - 2]!
  let sigma0 := rotateRight first 7 ^^^ rotateRight first 18 ^^^ (first >>> 3)
  let sigma1 :=
    rotateRight second 17 ^^^ rotateRight second 19 ^^^ (second >>> 10)
  words.set! index
    (words[index - 16]! + sigma0 + words[index - 7]! + sigma1)

def blockWords (block : Vector UInt8 64) : Vector UInt32 64 :=
  (List.range' 16 48).foldl extendWord
    ((List.range 16).foldl (loadWord block) (Vector.replicate 64 0))

structure Locals where
  a : UInt32
  b : UInt32
  c : UInt32
  d : UInt32
  e : UInt32
  f : UInt32
  g : UInt32
  h : UInt32

/-- The body of the loop over the rounds. -/
def roundStep (words : Vector UInt32 64) (locals : Locals) (index : Nat) :
    Locals :=
  let sum1 := rotateRight locals.e 6 ^^^ rotateRight locals.e 11 ^^^
    rotateRight locals.e 25
  let choose := (locals.e &&& locals.f) ^^^ (~~~locals.e &&& locals.g)
  let temporary1 :=
    locals.h + sum1 + choose + roundConstants[index]! + words[index]!
  let sum0 := rotateRight locals.a 2 ^^^ rotateRight locals.a 13 ^^^
    rotateRight locals.a 22
  let majority := (locals.a &&& locals.b) ^^^ (locals.a &&& locals.c) ^^^
    (locals.b &&& locals.c)
  let temporary2 := sum0 + majority
  { h := locals.g
    g := locals.f
    f := locals.e
    e := locals.d + temporary1
    d := locals.c
    c := locals.b
    b := locals.a
    a := temporary1 + temporary2 }

def loadLocals (state : Vector UInt32 8) : Locals where
  a := state[0]
  b := state[1]
  c := state[2]
  d := state[3]
  e := state[4]
  f := state[5]
  g := state[6]
  h := state[7]

def addLocals (state : Vector UInt32 8) (locals : Locals) : Vector UInt32 8 :=
  #v[state[0] + locals.a, state[1] + locals.b, state[2] + locals.c,
    state[3] + locals.d, state[4] + locals.e, state[5] + locals.f,
    state[6] + locals.g, state[7] + locals.h]

def processBlock (context : PortableContext) (block : Vector UInt8 64) :
    PortableContext :=
  { context with
    state := addLocals context.state
      ((List.range 64).foldl (roundStep (blockWords block))
        (loadLocals context.state)) }

/-! ## The provider -/

/-- `memcpy(block + offset, source, sizeof source)`. -/
def copyInto (block : Vector UInt8 64) (offset : Nat) (source : List UInt8) :
    Vector UInt8 64 :=
  Vector.ofFn fun index =>
    if offset ≤ index.val ∧ index.val < offset + source.length then
      source.getD (index.val - offset) 0
    else
      block[index]

def portableBegin (_ : PortableContext) : ReadyContext where
  state := initialState
  totalBytes := 0
  blockBytes := 0
  block := Vector.replicate 64 0
  within := by decide

/-- The loop of `portable_update` with `data` left to consume. -/
def consume (context : ReadyContext) (data : List UInt8) : ReadyContext :=
  if _ : 0 < data.length then
    let available := 64 - context.blockBytes
    let copy := if data.length < available then data.length else available
    let block := copyInto context.block context.blockBytes (data.take copy)
    let blockBytes := context.blockBytes + copy
    if full : blockBytes = 64 then
      let processed :=
        processBlock { context.toPortableContext with block, blockBytes } block
      consume { processed with blockBytes := 0, within := by decide }
        (data.drop copy)
    else
      consume
        { context with
          block
          blockBytes
          within := by
            have within := context.within
            simp only [blockBytes, copy, available] at full ⊢
            split at full
            · rw [if_pos (by assumption)]
              omega
            · omega }
        (data.drop copy)
  else
    context
termination_by data.length
decreasing_by
  all_goals
    have within := context.within
    rw [List.length_drop]
    split
    · omega
    · omega

/-- The context after the update, or nothing where it returns false. -/
def portableUpdate (context : ReadyContext) (data : List UInt8) :
    Option ReadyContext :=
  if 0xffffffffffffffff - context.totalBytes < UInt64.ofNat data.length then
    none
  else
    some (consume
      { context with
        totalBytes := context.totalBytes + UInt64.ofNat data.length }
      data)

/-- The body of the loop that stores the bit length. -/
def storeLength (bitLength : UInt64) (block : Vector UInt8 64) (index : Nat) :
    Vector UInt8 64 :=
  block.set! (63 - index) (bitLength >>> UInt64.ofNat (index * 8)).toUInt8

/-- The marker byte of `portable_finish`. -/
def markEnd (context : PortableContext) : PortableContext :=
  { context with
    block := copyInto context.block context.blockBytes [0x80]
    blockBytes := context.blockBytes + 1 }

/-- The block that `portable_finish` processes first when the length does not
fit behind the marker. -/
def makeRoom (context : PortableContext) : PortableContext :=
  if context.blockBytes > 56 then
    let block := copyInto context.block context.blockBytes
      (List.replicate (64 - context.blockBytes) 0)
    { processBlock { context with block } block with blockBytes := 0 }
  else
    context

/-- The last block of `portable_finish`. -/
def lastBlock (context : PortableContext) (bitLength : UInt64) :
    Vector UInt8 64 :=
  (List.range 8).foldl (storeLength bitLength)
    (copyInto context.block context.blockBytes
      (List.replicate (56 - context.blockBytes) 0))

/-- The digest and the context left behind, or nothing where it returns
false. -/
def portableFinish (context : ReadyContext) :
    Option (Vector UInt8 32 × PortableContext) :=
  if context.totalBytes > 0xffffffffffffffff / 8 then
    none
  else
    let bitLength := context.totalBytes * 8
    let room := makeRoom (markEnd context.toPortableContext)
    let block := lastBlock room bitLength
    let last := processBlock { room with block } block
    let digest := Vector.ofFn fun index : Fin 32 =>
      (writeU32Be last.state[index.val / 4])[index.val % 4]
    some (digest, last)

end Typxen.Sha256
