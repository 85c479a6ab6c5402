import SessionTokens.Crypto.Blake2b

set_option autoImplicit false

/- Argon2, versions 16 and 19, in its three variants. Memory is an array of blocks of 1024 bytes,
laid out lane after lane; it is filled slice by slice, and each new block is compressed from the
block before it and a block chosen by earlier content or by its position. -/
namespace SessionTokens.Crypto.Argon2

inductive Variant
  | dependent
  | independent
  | hybrid
deriving DecidableEq

/-- The number that names the variant in the first hash and in address blocks. -/
def Variant.number : Variant → Nat
  | .dependent => 0
  | .independent => 1
  | .hybrid => 2

inductive Version
  | v16
  | v19
deriving DecidableEq

def Version.number : Version → Nat
  | .v16 => 16
  | .v19 => 19

/-- Memory in KiB, passes over it, and lanes. -/
structure Costs where
  memory : Nat
  passes : Nat
  lanes : Nat
deriving DecidableEq, Repr

/-- A block of 1024 bytes as eight rows of sixteen words. -/
structure Block where
  r0 : Row
  r1 : Row
  r2 : Row
  r3 : Row
  r4 : Row
  r5 : Row
  r6 : Row
  r7 : Row

namespace Block

def zero : Block :=
  ⟨Row.zero, Row.zero, Row.zero, Row.zero, Row.zero, Row.zero, Row.zero, Row.zero⟩

def rows (b : Block) : List Row :=
  [b.r0, b.r1, b.r2, b.r3, b.r4, b.r5, b.r6, b.r7]

def words (b : Block) : List UInt64 :=
  b.rows.flatMap Row.words

/-- The block of the first 128 words. -/
def ofWords (w : List UInt64) : Block :=
  ⟨Row.ofWords w, Row.ofWords (w.drop 16), Row.ofWords (w.drop 32), Row.ofWords (w.drop 48),
    Row.ofWords (w.drop 64), Row.ofWords (w.drop 80), Row.ofWords (w.drop 96),
    Row.ofWords (w.drop 112)⟩

def xor (a b : Block) : Block :=
  ⟨a.r0.xor b.r0, a.r1.xor b.r1, a.r2.xor b.r2, a.r3.xor b.r3, a.r4.xor b.r4, a.r5.xor b.r5,
    a.r6.xor b.r6, a.r7.xor b.r7⟩

def map (f : Row → Row) (b : Block) : Block :=
  ⟨f b.r0, f b.r1, f b.r2, f b.r3, f b.r4, f b.r5, f b.r6, f b.r7⟩

/-- Exchanges rows and columns, where a column is a pair of neighbouring words. -/
def transpose (b : Block) : Block :=
  ⟨⟨b.r0.w0, b.r0.w1, b.r1.w0, b.r1.w1, b.r2.w0, b.r2.w1, b.r3.w0, b.r3.w1,
      b.r4.w0, b.r4.w1, b.r5.w0, b.r5.w1, b.r6.w0, b.r6.w1, b.r7.w0, b.r7.w1⟩,
    ⟨b.r0.w2, b.r0.w3, b.r1.w2, b.r1.w3, b.r2.w2, b.r2.w3, b.r3.w2, b.r3.w3,
      b.r4.w2, b.r4.w3, b.r5.w2, b.r5.w3, b.r6.w2, b.r6.w3, b.r7.w2, b.r7.w3⟩,
    ⟨b.r0.w4, b.r0.w5, b.r1.w4, b.r1.w5, b.r2.w4, b.r2.w5, b.r3.w4, b.r3.w5,
      b.r4.w4, b.r4.w5, b.r5.w4, b.r5.w5, b.r6.w4, b.r6.w5, b.r7.w4, b.r7.w5⟩,
    ⟨b.r0.w6, b.r0.w7, b.r1.w6, b.r1.w7, b.r2.w6, b.r2.w7, b.r3.w6, b.r3.w7,
      b.r4.w6, b.r4.w7, b.r5.w6, b.r5.w7, b.r6.w6, b.r6.w7, b.r7.w6, b.r7.w7⟩,
    ⟨b.r0.w8, b.r0.w9, b.r1.w8, b.r1.w9, b.r2.w8, b.r2.w9, b.r3.w8, b.r3.w9,
      b.r4.w8, b.r4.w9, b.r5.w8, b.r5.w9, b.r6.w8, b.r6.w9, b.r7.w8, b.r7.w9⟩,
    ⟨b.r0.w10, b.r0.w11, b.r1.w10, b.r1.w11, b.r2.w10, b.r2.w11, b.r3.w10, b.r3.w11,
      b.r4.w10, b.r4.w11, b.r5.w10, b.r5.w11, b.r6.w10, b.r6.w11, b.r7.w10, b.r7.w11⟩,
    ⟨b.r0.w12, b.r0.w13, b.r1.w12, b.r1.w13, b.r2.w12, b.r2.w13, b.r3.w12, b.r3.w13,
      b.r4.w12, b.r4.w13, b.r5.w12, b.r5.w13, b.r6.w12, b.r6.w13, b.r7.w12, b.r7.w13⟩,
    ⟨b.r0.w14, b.r0.w15, b.r1.w14, b.r1.w15, b.r2.w14, b.r2.w15, b.r3.w14, b.r3.w15,
      b.r4.w14, b.r4.w15, b.r5.w14, b.r5.w15, b.r6.w14, b.r6.w15, b.r7.w14, b.r7.w15⟩⟩

end Block

/-- Addition with twice the product of the low halves. -/
@[inline] def mulAdd (x y : UInt64) : UInt64 :=
  x + y + 2 * (x &&& 0xffffffff) * (y &&& 0xffffffff)

@[inline] def mix (a b c d : UInt64) : Quad :=
  let a := mulAdd a b
  let d := rotr64 (d ^^^ a) 32
  let c := mulAdd c d
  let b := rotr64 (b ^^^ c) 24
  let a := mulAdd a b
  let d := rotr64 (d ^^^ a) 16
  let c := mulAdd c d
  let b := rotr64 (b ^^^ c) 63
  ⟨a, b, c, d⟩

def permute (r : Row) : Row :=
  r.round fun _ => mix

/-- The compression of two blocks: rows, then columns, of their difference. -/
def compress (x y : Block) : Block :=
  let r := x.xor y
  let z := ((r.map permute).transpose.map permute).transpose
  z.xor r

/-- Digests chained to any length: each contributes its first half, and the last all of it. -/
def stretchFrom : Nat → Nat → List UInt8 → List UInt8
  | 0, _, v => v
  | n + 1, last, v =>
    v.take 32 ++ stretchFrom n last (Blake2b.digest (if n == 0 then last else 64) v)

/-- A digest of any length. -/
def stretch (size : Nat) (seed : List UInt8) : List UInt8 :=
  let start := littleEndian32 size ++ seed
  if size ≤ 64 then Blake2b.digest size start
  else
    let links := (size + 31) / 32 - 2
    stretchFrom links (size - 32 * links) (Blake2b.digest 64 start)

def lengthPrefixed (bytes : List UInt8) : List UInt8 :=
  littleEndian32 bytes.length ++ bytes

/-- What is hashed: everything but the length of the output. -/
structure Input where
  variant : Variant
  version : Version
  costs : Costs
  password : List UInt8
  salt : List UInt8
  associated : List UInt8

/-- The hash of all inputs, from which the first two blocks of each lane come. -/
def firstHash (i : Input) (size : Nat) : List UInt8 :=
  Blake2b.digest 64
    (littleEndian32 i.costs.lanes ++ littleEndian32 size ++ littleEndian32 i.costs.memory ++
      littleEndian32 i.costs.passes ++ littleEndian32 i.version.number ++
      littleEndian32 i.variant.number ++ lengthPrefixed i.password ++ lengthPrefixed i.salt ++
      lengthPrefixed [] ++ lengthPrefixed i.associated)

/-- How memory is divided: lanes of four segments each. -/
structure Layout where
  lanes : Nat
  segment : Nat

def Layout.ofCosts (c : Costs) : Layout :=
  ⟨c.lanes, c.memory / (4 * c.lanes)⟩

def Layout.lane (l : Layout) : Nat :=
  4 * l.segment

def Layout.size (l : Layout) : Nat :=
  l.lanes * l.lane

/-- A place in the order of filling. -/
structure Place where
  pass : Nat
  slice : Nat
  lane : Nat

/-- Whether references at a place come from positions and not from content. -/
def byPosition (v : Variant) (p : Place) : Bool :=
  match v with
  | .dependent => false
  | .independent => true
  | .hybrid => p.pass == 0 && p.slice < 2

/-- The `counter`-th block of position-made references at a place. -/
def addresses (i : Input) (l : Layout) (p : Place) (counter : Nat) : Array UInt64 :=
  let input := Block.ofWords
    ([p.pass, p.lane, p.slice, l.size, i.costs.passes, i.variant.number, counter].map UInt64.ofNat)
  (compress Block.zero (compress Block.zero input)).words.toArray

/-- The index of the block that a place refers to, from 64 bits of choice: the high half chooses
the lane, and the low half favours recent blocks of that lane. -/
def reference (l : Layout) (p : Place) (block : Nat) (choice : UInt64) : Nat :=
  let chosen := (choice >>> 32).toNat % l.lanes
  let lane := if p.pass == 0 && p.slice == 0 then p.lane else chosen
  let area :=
    if p.pass == 0 then
      if p.slice == 0 then block - 1
      else if lane == p.lane then p.slice * l.segment + block - 1
      else p.slice * l.segment - (if block == 0 then 1 else 0)
    else if lane == p.lane then l.lane - l.segment + block - 1
    else l.lane - l.segment - (if block == 0 then 1 else 0)
  let low := (choice &&& 0xffffffff).toNat
  let distance := area * (low * low / 2 ^ 32) / 2 ^ 32
  let start := if p.pass != 0 && p.slice != 3 then (p.slice + 1) * l.segment else 0
  lane * l.lane + (start + (area - 1 - distance)) % l.lane

/-- Memory and the references in use. -/
structure Filling where
  memory : Array Block
  references : Array UInt64

def fillBlock (i : Input) (l : Layout) (p : Place) (f : Filling) (block : Nat) : Filling :=
  let here := p.lane * l.lane + p.slice * l.segment + block
  let before := if p.slice == 0 && block == 0 then here + l.lane - 1 else here - 1
  let previous := f.memory.getD before Block.zero
  let positional := byPosition i.variant p
  let refs :=
    if positional && block % 128 == 0 then addresses i l p (block / 128 + 1) else f.references
  let choice := if positional then refs.getD (block % 128) 0 else previous.r0.w0
  let made := compress previous (f.memory.getD (reference l p block choice) Block.zero)
  let next :=
    if p.pass == 0 || i.version == .v16 then made
    else made.xor (f.memory.getD here Block.zero)
  ⟨f.memory.set! here next, refs⟩

/-- Fills one segment; in the first pass the first two blocks of a lane are given. -/
def fillSegment (i : Input) (l : Layout) (memory : Array Block) (p : Place) : Array Block :=
  let first := if p.pass == 0 && p.slice == 0 then 2 else 0
  let refs := if byPosition i.variant p && first == 2 then addresses i l p 1 else #[]
  let filled := (List.range' first (l.segment - first)).foldl (fillBlock i l p) ⟨memory, refs⟩
  filled.memory

def places (l : Layout) (passes : Nat) : List Place :=
  (List.range passes).flatMap fun pass =>
    (List.range 4).flatMap fun slice =>
      (List.range l.lanes).map fun lane => ⟨pass, slice, lane⟩

/-- Memory with the first two blocks of every lane. -/
def seeded (l : Layout) (seed : List UInt8) : Array Block :=
  let block (column lane : Nat) : Block :=
    Block.ofWords (wordsOfBytes
      (stretch 1024 (seed ++ littleEndian32 column ++ littleEndian32 lane)))
  (List.range l.lanes).foldl
    (fun memory lane =>
      (memory.set! (lane * l.lane) (block 0 lane)).set! (lane * l.lane + 1) (block 1 lane))
    (Array.replicate l.size Block.zero)

/-- The tag of the given number of bytes. -/
def hash (i : Input) (size : Nat) : List UInt8 :=
  let l := Layout.ofCosts i.costs
  let memory := (places l i.costs.passes).foldl (fillSegment i l) (seeded l (firstHash i size))
  let last := (List.range l.lanes).foldl
    (fun b lane => b.xor (memory.getD (lane * l.lane + l.lane - 1) Block.zero)) Block.zero
  stretch size (last.words.flatMap bytesOfWord)

end SessionTokens.Crypto.Argon2
