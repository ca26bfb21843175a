/-!
# SHA-256 and the message code built on it

The digest of any run of bytes, as a fold of a compression function over blocks of sixty-four
bytes, and the keyed digest that hashes twice, with the key mixed in each time.
-/

namespace FoodOrdering

namespace Sha256

/-- The first 32 bits of the fractional parts of the cube roots of the first 64 primes. -/
def roundConstants : List UInt32 :=
  [0x428a2f98, 0x71374491, 0xb5c0fbcf, 0xe9b5dba5, 0x3956c25b, 0x59f111f1, 0x923f82a4, 0xab1c5ed5,
   0xd807aa98, 0x12835b01, 0x243185be, 0x550c7dc3, 0x72be5d74, 0x80deb1fe, 0x9bdc06a7, 0xc19bf174,
   0xe49b69c1, 0xefbe4786, 0x0fc19dc6, 0x240ca1cc, 0x2de92c6f, 0x4a7484aa, 0x5cb0a9dc, 0x76f988da,
   0x983e5152, 0xa831c66d, 0xb00327c8, 0xbf597fc7, 0xc6e00bf3, 0xd5a79147, 0x06ca6351, 0x14292967,
   0x27b70a85, 0x2e1b2138, 0x4d2c6dfc, 0x53380d13, 0x650a7354, 0x766a0abb, 0x81c2c92e, 0x92722c85,
   0xa2bfe8a1, 0xa81a664b, 0xc24b8b70, 0xc76c51a3, 0xd192e819, 0xd6990624, 0xf40e3585, 0x106aa070,
   0x19a4c116, 0x1e376c08, 0x2748774c, 0x34b0bcb5, 0x391c0cb3, 0x4ed8aa4a, 0x5b9cca4f, 0x682e6ff3,
   0x748f82ee, 0x78a5636f, 0x84c87814, 0x8cc70208, 0x90befffa, 0xa4506ceb, 0xbef9a3f7, 0xc67178f2]

/-- The eight words that the compression function changes. -/
structure Words where
  a : UInt32
  b : UInt32
  c : UInt32
  d : UInt32
  e : UInt32
  f : UInt32
  g : UInt32
  h : UInt32

/-- The first 32 bits of the fractional parts of the square roots of the first eight primes. -/
def start : Words :=
  { a := 0x6a09e667, b := 0xbb67ae85, c := 0x3c6ef372, d := 0xa54ff53a
    e := 0x510e527f, f := 0x9b05688c, g := 0x1f83d9ab, h := 0x5be0cd19 }

def rotateRight (word : UInt32) (amount : UInt32) : UInt32 :=
  (word >>> amount) ||| (word <<< (32 - amount))

/-- One round with a constant and a word of the schedule. -/
def Words.round (words : Words) (constant scheduled : UInt32) : Words :=
  let sum1 := rotateRight words.e 6 ^^^ rotateRight words.e 11 ^^^ rotateRight words.e 25
  let choice := (words.e &&& words.f) ^^^ ((~~~ words.e) &&& words.g)
  let first := words.h + sum1 + choice + constant + scheduled
  let sum0 := rotateRight words.a 2 ^^^ rotateRight words.a 13 ^^^ rotateRight words.a 22
  let majority := (words.a &&& words.b) ^^^ (words.a &&& words.c) ^^^ (words.b &&& words.c)
  { a := first + (sum0 + majority), b := words.a, c := words.b, d := words.c
    e := words.d + first, f := words.e, g := words.f, h := words.g }

def Words.add (left right : Words) : Words :=
  { a := left.a + right.a, b := left.b + right.b, c := left.c + right.c, d := left.d + right.d
    e := left.e + right.e, f := left.f + right.f, g := left.g + right.g, h := left.h + right.h }

/-- The next word of a schedule whose words stand last first. -/
def scheduleNext (words : List UInt32) : UInt32 :=
  let recent := words.getD 1 0
  let early := words.getD 14 0
  let sigma1 := rotateRight recent 17 ^^^ rotateRight recent 19 ^^^ (recent >>> 10)
  let sigma0 := rotateRight early 7 ^^^ rotateRight early 18 ^^^ (early >>> 3)
  sigma1 + words.getD 6 0 + sigma0 + words.getD 15 0

/-- Extend a schedule whose words stand last first. -/
def extendSchedule (words : List UInt32) : Nat → List UInt32
  | 0 => words
  | steps + 1 => extendSchedule (scheduleNext words :: words) steps

/-- The big-endian words of a run of bytes. -/
def bigEndianWords : List UInt8 → List UInt32
  | a :: b :: c :: d :: rest =>
      ((a.toUInt32 <<< 24) ||| (b.toUInt32 <<< 16) ||| (c.toUInt32 <<< 8) ||| d.toUInt32) ::
        bigEndianWords rest
  | _ => []

/-- Mix one block of sixty-four bytes into the words. -/
def compress (words : Words) (block : List UInt8) : Words :=
  let schedule := (extendSchedule (bigEndianWords block).reverse 48).reverse
  words.add ((roundConstants.zip schedule).foldl (fun words pair => words.round pair.1 pair.2) words)

/-- The eight bytes of a number, the highest first. -/
def bigEndianBytes (value : UInt64) : List UInt8 :=
  [56, 48, 40, 32, 24, 16, 8, 0].map fun shift : UInt64 => (value >>> shift).toUInt8

/-- The message, one bit, zeros and the message's length in bits, which fills whole blocks. -/
def pad (message : List UInt8) : List UInt8 :=
  let length := message.length
  message ++ 0x80 :: (List.replicate ((119 - length % 64) % 64) 0 ++
    bigEndianBytes (UInt64.ofNat (8 * length)))

/-- Cut into blocks of sixty-four bytes. -/
def blocks : List UInt8 → List (List UInt8)
  | [] => []
  | byte :: rest => (byte :: rest.take 63) :: blocks (rest.drop 63)
termination_by bytes => bytes.length
decreasing_by
  simp only [List.length_drop, List.length_cons]
  omega

/-- The four bytes of a word, the highest first. -/
def wordBytes (word : UInt32) : List UInt8 :=
  [(word >>> 24).toUInt8, (word >>> 16).toUInt8, (word >>> 8).toUInt8, word.toUInt8]

def Words.toBytes (words : Words) : List UInt8 :=
  [words.a, words.b, words.c, words.d, words.e, words.f, words.g, words.h].flatMap wordBytes

end Sha256

/-- The SHA-256 digest of a message. -/
def sha256 (message : List UInt8) : List UInt8 :=
  ((Sha256.blocks (Sha256.pad message)).foldl Sha256.compress Sha256.start).toBytes

/-- A key of exactly one block: a longer one is hashed, a shorter one filled up with zeros. -/
def hmacKey (key : List UInt8) : List UInt8 :=
  let short := if 64 < key.length then sha256 key else key
  short ++ List.replicate (64 - short.length) 0

/-- The keyed digest of a message. -/
def hmacSha256 (key message : List UInt8) : List UInt8 :=
  let block := hmacKey key
  let inner := sha256 (block.map (· ^^^ 0x36) ++ message)
  sha256 (block.map (· ^^^ 0x5c) ++ inner)

end FoodOrdering
