/-!
# SHA-1

The digest of bytes: they are padded to blocks of sixteen words, and each block stirs five words
for eighty rounds.
-/

namespace ScriptDeps.Hash

/-- The five words that a digest is made of. -/
structure Words where
  a : UInt32
  b : UInt32
  c : UInt32
  d : UInt32
  e : UInt32
  deriving DecidableEq, Repr

namespace Words

def start : Words := ⟨0x67452301, 0xEFCDAB89, 0x98BADCFE, 0x10325476, 0xC3D2E1F0⟩

def add (x y : Words) : Words :=
  ⟨x.a + y.a, x.b + y.b, x.c + y.c, x.d + y.d, x.e + y.e⟩

end Words

def turn (n word : UInt32) : UInt32 :=
  (word <<< n) ||| (word >>> (32 - n))

/-- The function of three words and the constant of a round. -/
def roundMix (t : Nat) (b c d : UInt32) : UInt32 × UInt32 :=
  if t < 20 then ((b &&& c) ||| (~~~b &&& d), 0x5A827999)
  else if t < 40 then (b ^^^ c ^^^ d, 0x6ED9EBA1)
  else if t < 60 then ((b &&& c) ||| (b &&& d) ||| (c &&& d), 0x8F1BBCDC)
  else (b ^^^ c ^^^ d, 0xCA62C1D6)

def round (s : Words) (t : Nat) (word : UInt32) : Words :=
  let (mixed, constant) := roundMix t s.b s.c s.d
  ⟨turn 5 s.a + mixed + s.e + constant + word, s.a, turn 30 s.b, s.c, s.d⟩

/-- The next words of a schedule, given its last sixteen. -/
def schedule : Nat → List UInt32 → List UInt32
  | 0, _ => []
  | _ + 1, [] => []
  | n + 1, word :: rest =>
    let next := turn 1 (rest.getD 12 0 ^^^ rest.getD 7 0 ^^^ rest.getD 1 0 ^^^ word)
    word :: schedule n (rest ++ [next])

def addBlock (s : Words) (block : List UInt32) : Words :=
  s.add (((schedule 80 block).zipIdx).foldl (fun s (word, t) => round s t word) s)

/-- The words that bytes make, the high byte first. -/
def wordsOf : List UInt8 → List UInt32
  | a :: b :: c :: d :: rest =>
    ((a.toUInt32 <<< 24) ||| (b.toUInt32 <<< 16) ||| (c.toUInt32 <<< 8) ||| d.toUInt32)
      :: wordsOf rest
  | _ => []

/-- A number in so many bytes, the high byte first. -/
def bytesOf (width n : Nat) : List UInt8 :=
  (List.range width).reverse.map fun i => UInt8.ofNat (n / Nat.pow 256 i)

/-- Bytes with a mark after them, zeros up to the end of a block, and their number of bits. -/
def pad (bytes : List UInt8) : List UInt8 :=
  let zeros := (119 - bytes.length % 64) % 64
  bytes ++ 0x80 :: List.replicate zeros 0 ++ bytesOf 8 (8 * bytes.length)

/-- Some blocks of a list of words, sixteen words each. -/
def blocks : Nat → List UInt32 → List (List UInt32)
  | 0, _ => []
  | n + 1, words => words.take 16 :: blocks n (words.drop 16)

def digest (bytes : List UInt8) : List UInt8 :=
  let words := wordsOf (pad bytes)
  let s := (blocks (words.length / 16) words).foldl addBlock Words.start
  [s.a, s.b, s.c, s.d, s.e].flatMap fun word => bytesOf 4 word.toNat

end ScriptDeps.Hash
