import SessionTokens.Arithmetic

set_option autoImplicit false

namespace SessionTokens.Crypto

def rotr64 (x n : UInt64) : UInt64 :=
  (x >>> n) ||| (x <<< (64 - n))

/-- Four words mixed together. -/
structure Quad where
  a : UInt64
  b : UInt64
  c : UInt64
  d : UInt64

/-- Sixteen words. -/
structure Row where
  w0 : UInt64
  w1 : UInt64
  w2 : UInt64
  w3 : UInt64
  w4 : UInt64
  w5 : UInt64
  w6 : UInt64
  w7 : UInt64
  w8 : UInt64
  w9 : UInt64
  w10 : UInt64
  w11 : UInt64
  w12 : UInt64
  w13 : UInt64
  w14 : UInt64
  w15 : UInt64

namespace Row

def zero : Row := ⟨0, 0, 0, 0, 0, 0, 0, 0, 0, 0, 0, 0, 0, 0, 0, 0⟩

def words (r : Row) : List UInt64 :=
  [r.w0, r.w1, r.w2, r.w3, r.w4, r.w5, r.w6, r.w7, r.w8, r.w9, r.w10, r.w11, r.w12, r.w13, r.w14,
    r.w15]

/-- The row of the first sixteen words, zeros where the list ends early. -/
def ofWords (w : List UInt64) : Row :=
  ⟨w.getD 0 0, w.getD 1 0, w.getD 2 0, w.getD 3 0, w.getD 4 0, w.getD 5 0, w.getD 6 0, w.getD 7 0,
    w.getD 8 0, w.getD 9 0, w.getD 10 0, w.getD 11 0, w.getD 12 0, w.getD 13 0, w.getD 14 0,
    w.getD 15 0⟩

def xor (r s : Row) : Row :=
  ⟨r.w0 ^^^ s.w0, r.w1 ^^^ s.w1, r.w2 ^^^ s.w2, r.w3 ^^^ s.w3, r.w4 ^^^ s.w4, r.w5 ^^^ s.w5,
    r.w6 ^^^ s.w6, r.w7 ^^^ s.w7, r.w8 ^^^ s.w8, r.w9 ^^^ s.w9, r.w10 ^^^ s.w10, r.w11 ^^^ s.w11,
    r.w12 ^^^ s.w12, r.w13 ^^^ s.w13, r.w14 ^^^ s.w14, r.w15 ^^^ s.w15⟩

/-- One round: the four columns, then the four diagonals. The mixing function is told which of the
eight it works on. -/
@[inline] def round (mix : Nat → UInt64 → UInt64 → UInt64 → UInt64 → Quad) (r : Row) : Row :=
  let p := mix 0 r.w0 r.w4 r.w8 r.w12
  let q := mix 1 r.w1 r.w5 r.w9 r.w13
  let s := mix 2 r.w2 r.w6 r.w10 r.w14
  let t := mix 3 r.w3 r.w7 r.w11 r.w15
  let u := mix 4 p.a q.b s.c t.d
  let v := mix 5 q.a s.b t.c p.d
  let x := mix 6 s.a t.b p.c q.d
  let y := mix 7 t.a p.b q.c s.d
  ⟨u.a, v.a, x.a, y.a, y.b, u.b, v.b, x.b, x.c, y.c, u.c, v.c, v.d, x.d, y.d, u.d⟩

end Row

/-- Words from bytes, the lowest byte first. -/
def wordsOfBytes : List UInt8 → List UInt64
  | a :: b :: c :: d :: e :: f :: g :: h :: rest =>
    (a.toUInt64 ||| (b.toUInt64 <<< 8) ||| (c.toUInt64 <<< 16) ||| (d.toUInt64 <<< 24) |||
      (e.toUInt64 <<< 32) ||| (f.toUInt64 <<< 40) ||| (g.toUInt64 <<< 48) |||
      (h.toUInt64 <<< 56)) :: wordsOfBytes rest
  | _ => []

def bytesOfWord (w : UInt64) : List UInt8 :=
  [w.toUInt8, (w >>> 8).toUInt8, (w >>> 16).toUInt8, (w >>> 24).toUInt8, (w >>> 32).toUInt8,
    (w >>> 40).toUInt8, (w >>> 48).toUInt8, (w >>> 56).toUInt8]

/-- A number in four bytes, the lowest first. -/
def littleEndian32 (n : Nat) : List UInt8 :=
  [UInt8.ofNat n, UInt8.ofNat (n / 256), UInt8.ofNat (n / 65536), UInt8.ofNat (n / 16777216)]

end SessionTokens.Crypto
