import SessionTokens.Crypto.Row

set_option autoImplicit false

namespace SessionTokens.Crypto.Blake2b

def initialVector : List UInt64 :=
  [0x6a09e667f3bcc908, 0xbb67ae8584caa73b, 0x3c6ef372fe94f82b, 0xa54ff53a5f1d36f1,
   0x510e527fade682d1, 0x9b05688c2b3e6c1f, 0x1f83d9abfb41bd6b, 0x5be0cd19137e2179]

/-- The order in which a round takes the message words, two for each of its eight mixings. -/
def orders : List (List Nat) :=
  [[0, 1, 2, 3, 4, 5, 6, 7, 8, 9, 10, 11, 12, 13, 14, 15],
   [14, 10, 4, 8, 9, 15, 13, 6, 1, 12, 0, 2, 11, 7, 5, 3],
   [11, 8, 12, 0, 5, 2, 15, 13, 10, 14, 3, 6, 7, 1, 9, 4],
   [7, 9, 3, 1, 13, 12, 11, 14, 2, 6, 5, 10, 4, 0, 15, 8],
   [9, 0, 5, 7, 2, 4, 10, 15, 14, 1, 11, 12, 6, 8, 3, 13],
   [2, 12, 6, 10, 0, 11, 8, 3, 4, 13, 7, 5, 15, 14, 1, 9],
   [12, 5, 1, 15, 14, 13, 4, 10, 0, 7, 6, 3, 9, 2, 8, 11],
   [13, 11, 7, 14, 12, 1, 3, 9, 5, 0, 15, 4, 8, 6, 2, 10],
   [6, 15, 14, 9, 11, 3, 0, 8, 12, 2, 13, 7, 1, 4, 10, 5],
   [10, 2, 8, 4, 7, 6, 1, 5, 15, 11, 9, 14, 3, 12, 13, 0],
   [0, 1, 2, 3, 4, 5, 6, 7, 8, 9, 10, 11, 12, 13, 14, 15],
   [14, 10, 4, 8, 9, 15, 13, 6, 1, 12, 0, 2, 11, 7, 5, 3]]

def mix (x y a b c d : UInt64) : Quad :=
  let a := a + b + x
  let d := rotr64 (d ^^^ a) 32
  let c := c + d
  let b := rotr64 (b ^^^ c) 24
  let a := a + b + y
  let d := rotr64 (d ^^^ a) 16
  let c := c + d
  let b := rotr64 (b ^^^ c) 63
  ⟨a, b, c, d⟩

/-- Absorbs one block of sixteen words; `count` is the number of bytes absorbed after it. -/
def absorb (h : List UInt64) (block : List UInt64) (count : Nat) (last : Bool) : List UInt64 :=
  let v := Row.ofWords (h ++ initialVector)
  let v := { v with
    w12 := v.w12 ^^^ UInt64.ofNat count
    w13 := v.w13 ^^^ UInt64.ofNat (count / 2 ^ 64)
    w14 := if last then ~~~v.w14 else v.w14 }
  let out := orders.foldl
    (fun r order => r.round fun i =>
      mix (block.getD (order.getD (2 * i) 0) 0) (block.getD (order.getD (2 * i + 1) 0) 0))
    v
  List.zipWith (· ^^^ ·) h (List.zipWith (· ^^^ ·) (out.words.take 8) (out.words.drop 8))

/-- Absorbs blocks of 128 bytes; the last is filled with zeros. -/
def absorbAll : Nat → List UInt8 → Nat → List UInt64 → List UInt64
  | 0, _, _, h => h
  | n + 1, bytes, count, h =>
    let block := bytes.take 128
    let words := wordsOfBytes (block ++ List.replicate (128 - block.length) 0)
    let count := count + block.length
    absorbAll n (bytes.drop 128) count (absorb h words count (n == 0))

/-- The digest of the given number of bytes. -/
def digest (size : Nat) (message : List UInt8) : List UInt8 :=
  let h := match initialVector with
    | x :: rest => (x ^^^ 0x01010000 ^^^ UInt64.ofNat size) :: rest
    | [] => []
  let blocks := max 1 ((message.length + 127) / 128)
  ((absorbAll blocks message 0 h).flatMap bytesOfWord).take size

end SessionTokens.Crypto.Blake2b
