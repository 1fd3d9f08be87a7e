import FleetConfig.Text.Hex

/-!
# Content digests

The SHA-256 digest of a text.  The message is padded to whole blocks of
sixteen words; each block is expanded to sixty-four words and folded into a
state of eight words.
-/

namespace FleetConfig.Digest

/-- The eight words that a digest is folded into. -/
structure State where
  a : UInt32
  b : UInt32
  c : UInt32
  d : UInt32
  e : UInt32
  f : UInt32
  g : UInt32
  h : UInt32
  deriving Repr, DecidableEq

/-- The first fractional bits of the square roots of the first eight primes. -/
def initialState : State :=
  ⟨0x6A09E667, 0xBB67AE85, 0x3C6EF372, 0xA54FF53A, 0x510E527F, 0x9B05688C, 0x1F83D9AB,
   0x5BE0CD19⟩

/-- The first fractional bits of the cube roots of the first sixty-four primes. -/
def roundConstants : List UInt32 :=
  [0x428A2F98, 0x71374491, 0xB5C0FBCF, 0xE9B5DBA5, 0x3956C25B, 0x59F111F1, 0x923F82A4,
   0xAB1C5ED5, 0xD807AA98, 0x12835B01, 0x243185BE, 0x550C7DC3, 0x72BE5D74, 0x80DEB1FE,
   0x9BDC06A7, 0xC19BF174, 0xE49B69C1, 0xEFBE4786, 0x0FC19DC6, 0x240CA1CC, 0x2DE92C6F,
   0x4A7484AA, 0x5CB0A9DC, 0x76F988DA, 0x983E5152, 0xA831C66D, 0xB00327C8, 0xBF597FC7,
   0xC6E00BF3, 0xD5A79147, 0x06CA6351, 0x14292967, 0x27B70A85, 0x2E1B2138, 0x4D2C6DFC,
   0x53380D13, 0x650A7354, 0x766A0ABB, 0x81C2C92E, 0x92722C85, 0xA2BFE8A1, 0xA81A664B,
   0xC24B8B70, 0xC76C51A3, 0xD192E819, 0xD6990624, 0xF40E3585, 0x106AA070, 0x19A4C116,
   0x1E376C08, 0x2748774C, 0x34B0BCB5, 0x391C0CB3, 0x4ED8AA4A, 0x5B9CCA4F, 0x682E6FF3,
   0x748F82EE, 0x78A5636F, 0x84C87814, 0x8CC70208, 0x90BEFFFA, 0xA4506CEB, 0xBEF9A3F7,
   0xC67178F2]

/-- Rotate a word to the right. -/
def rotateRight (word : UInt32) (amount : UInt32) : UInt32 :=
  (word >>> amount) ||| (word <<< (32 - amount))

/-- The byte that ends the message, the zeros after it, and the length in bits. -/
def padding (length : Nat) : List UInt8 :=
  let zeros := (119 - length % 64) % 64
  let bits := 8 * length
  0x80 :: List.replicate zeros 0 ++
    (List.range 8).map fun index => UInt8.ofNat (bits / Nat.pow 256 (7 - index))

/-- Read bytes as words, most significant byte first. -/
def wordsOfBytes : List UInt8 → List UInt32
  | first :: second :: third :: fourth :: rest =>
      (first.toUInt32 <<< 24 ||| second.toUInt32 <<< 16 ||| third.toUInt32 <<< 8 |||
        fourth.toUInt32) :: wordsOfBytes rest
  | _ =>
      []

/-- The word that follows the sixteen words before it, given latest first. -/
def nextWord (latestFirst : List UInt32) : UInt32 :=
  let two := latestFirst.getD 1 0
  let seven := latestFirst.getD 6 0
  let fifteen := latestFirst.getD 14 0
  let sixteen := latestFirst.getD 15 0
  let low := rotateRight fifteen 7 ^^^ rotateRight fifteen 18 ^^^ fifteen >>> 3
  let high := rotateRight two 17 ^^^ rotateRight two 19 ^^^ two >>> 10
  sixteen + low + seven + high

/-- Expand a block by further words; the words are held latest first. -/
def expand : (count : Nat) → (latestFirst : List UInt32) → List UInt32
  | 0, latestFirst =>
      latestFirst
  | count + 1, latestFirst =>
      expand count (nextWord latestFirst :: latestFirst)

/-- Mix one word and its constant into the state. -/
def mix (state : State) (constant word : UInt32) : State :=
  let choice := (state.e &&& state.f) ^^^ (~~~state.e &&& state.g)
  let majority := (state.a &&& state.b) ^^^ (state.a &&& state.c) ^^^ (state.b &&& state.c)
  let high := rotateRight state.e 6 ^^^ rotateRight state.e 11 ^^^ rotateRight state.e 25
  let low := rotateRight state.a 2 ^^^ rotateRight state.a 13 ^^^ rotateRight state.a 22
  let first := state.h + high + choice + constant + word
  ⟨first + (low + majority), state.a, state.b, state.c, state.d + first, state.e, state.f,
   state.g⟩

/-- Add two states word by word. -/
def addStates (left right : State) : State :=
  ⟨left.a + right.a, left.b + right.b, left.c + right.c, left.d + right.d, left.e + right.e,
   left.f + right.f, left.g + right.g, left.h + right.h⟩

/-- Fold one block of sixteen words into the state. -/
def compress (state : State) (block : List UInt32) : State :=
  let schedule := (expand 48 block.reverse).reverse
  addStates state
    ((roundConstants.zip schedule).foldl (fun s (constant, word) => mix s constant word) state)

/-- Fold blocks of sixteen words into the state; the words after them are dropped. -/
def compressAll : (count : Nat) → State → (words : List UInt32) → State
  | 0, state, _ =>
      state
  | count + 1, state, words =>
      compressAll count (compress state (words.take 16)) (words.drop 16)

/-- The eight words of the SHA-256 digest of a list of bytes. -/
def ofBytes (bytes : List UInt8) : State :=
  let words := wordsOfBytes (bytes ++ padding bytes.length)
  compressAll (words.length / 16) initialState words

/-- A state as sixty-four hexadecimal digits. -/
def State.toHex (state : State) : String :=
  String.ofList <|
    [state.a, state.b, state.c, state.d, state.e, state.f, state.g, state.h].flatMap
      fun word => Text.hexDigits 8 word.toNat

/-- The hexadecimal SHA-256 digest of a text's UTF-8 bytes. -/
def ofText (text : String) : String :=
  (ofBytes text.toUTF8.data.toList).toHex

end FleetConfig.Digest
