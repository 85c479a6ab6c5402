import SessionTokens.Text.Utf8
import SessionTokens.Time.Calendar

set_option autoImplicit false

namespace SessionTokens.Der

open Text

inductive Node
  | sequence (items : List Node)
  | bits (bytes : List UInt8)
  | octets (bytes : List UInt8)
  | objectId (arcs : List Nat)
  | other

/-- A number in groups of seven bits, the last without its high bit. -/
def base128 : Nat → List UInt8 → Option (Nat × List UInt8)
  | _, [] => none
  | n, b :: rest =>
    let m := n * 128 + b.toNat % 128
    if b.toNat < 128 then some (m, rest) else base128 m rest

/-- A tag: its class, whether it holds further nodes, and its number. -/
structure Tag where
  universal : Bool
  constructed : Bool
  number : Nat

def tag? : List UInt8 → Option (Tag × List UInt8)
  | [] => none
  | b :: rest =>
    let n := b.toNat
    let tag := fun number => (⟨n / 64 == 0, n / 32 % 2 == 1, number⟩ : Tag)
    if n % 32 == 31 then (base128 0 rest).map fun (number, r) => (tag number, r)
    else some (tag (n % 32), rest)

/-- A length: below 128 itself, else in the given number of bytes, eight at most. -/
def length? : List UInt8 → Option (Nat × List UInt8)
  | [] => none
  | b :: rest =>
    let n := b.toNat
    if n < 128 then some (n, rest)
    else if 136 < n || rest.length < n - 128 then none
    else
      some ((rest.take (n - 128)).foldl (fun m x => m * 256 + x.toNat) 0, rest.drop (n - 128))

/-- The arcs after the first two. -/
def arcs : Nat → List UInt8 → Option (List Nat)
  | 0, _ => none
  | _, [] => some []
  | fuel + 1, bytes => do
    let (n, rest) ← base128 0 bytes
    let more ← arcs fuel rest
    some (n :: more)

def objectId? : List UInt8 → Option (List Nat)
  | [] => none
  | b :: rest =>
    let n := b.toNat
    let first := min (n / 40) 2
    (arcs (rest.length + 1) rest).map fun more => first :: (n - 40 * first) :: more

def isPrintable (b : UInt8) : Bool :=
  let c := Char.ofNat b.toNat
  c.isAlphanum || " '()+,-./:=?".toList.contains c

def digitsValue (s : List Char) : Nat :=
  Nat.ofDigitChars 10 s 0

/-- A date and time of day in two digits each, the last without seconds past 59, and the zone. -/
def isTimeOfDay (days : Nat) (s : List Char) : Bool :=
  let field := fun i => digitsValue ((s.drop (2 * i)).take 2)
  s.length == 9 && (s.take 8).all Char.isDigit && s.getLast? == some 'Z' &&
    1 ≤ field 0 && field 0 ≤ days && field 1 < 24 && field 2 < 60 && field 3 < 60

def daysIn (year month : Nat) : Nat :=
  (Calendar.monthLengths (Calendar.isLeap year)).getD (month - 1) 0

/-- A time of the years 1950 to 2049, 13 characters. -/
def isUtcTime (bytes : List UInt8) : Bool :=
  let s := bytes.map fun b => Char.ofNat b.toNat
  let year := digitsValue (s.take 2)
  let month := digitsValue ((s.drop 2).take 2)
  s.length == 13 && (s.take 4).all Char.isDigit && 1 ≤ month &&
    isTimeOfDay (daysIn (if 50 ≤ year then 1900 + year else 2000 + year) month) (s.drop 4)

/-- A time with a year of four digits, whole seconds or with a fraction. -/
def isGeneralizedTime (bytes : List UInt8) : Bool :=
  let s := bytes.map fun b => Char.ofNat b.toNat
  let year := digitsValue (s.take 4)
  let month := digitsValue ((s.drop 4).take 2)
  let fraction := (s.drop 14).dropLast
  15 ≤ s.length && (s.take 6).all Char.isDigit && 1 ≤ month &&
    isTimeOfDay (daysIn year month) ((s.drop 6).take 8 ++ s.drop (s.length - 1)) &&
    (match fraction with
      | [] => true
      | '.' :: digits => !digits.isEmpty && digits.all Char.isDigit
      | _ => false)

/-- The node of a tag that holds no nodes, if its content is allowed. -/
def leaf? (number : Nat) (body : List UInt8) : Option Node :=
  match number with
  | 1 => if body.length == 1 then some .other else none
  | 3 =>
    match body with
    | [] => some (.bits [])
    | unused :: bits => if bits.length * 8 < unused.toNat then none else some (.bits bits)
  | 4 => some (.octets body)
  | 6 => (objectId? body).map .objectId
  | 12 => (Utf8.decode? body).map fun _ => .other
  | 19 => if body.all isPrintable then some .other else none
  | 20 => (Utf8.decode? body).map fun _ => .other
  | 22 => if body.all (·.toNat < 128) then some .other else none
  | 23 => if isUtcTime body then some .other else none
  | 24 => if isGeneralizedTime body then some .other else none
  | 28 => (Utf8.decode? body).map fun _ => .other
  | _ => some .other

/-- The nodes of some content, at least one. -/
def readNodes : Nat → List UInt8 → Option (List Node)
  | 0, _ => none
  | fuel + 1, bytes => do
    let (tag, rest) ← tag? bytes
    let (length, rest) ← length? rest
    if rest.length < length then none
    else
      let body := rest.take length
      let node ←
        if !tag.universal then some .other
        else if tag.number == 16 then (readNodes fuel body).map .sequence
        else if tag.number == 17 then (readNodes fuel body).map fun _ => .other
        else leaf? tag.number body
      match rest.drop length with
      | [] => some [node]
      | more => do
        let nodes ← readNodes fuel more
        some (node :: nodes)

def read (bytes : List UInt8) : Option (List Node) :=
  readNodes (bytes.length + 1) bytes

mutual

/-- The first node below sequences that a choice takes, depth first. -/
def Node.findFirst {α : Type} (choice : Node → Option α) : Node → Option α
  | .sequence items => findFirstOf choice items
  | n => choice n

def findFirstOf {α : Type} (choice : Node → Option α) : List Node → Option α
  | [] => none
  | n :: rest =>
    match n.findFirst choice with
    | some a => some a
    | none => findFirstOf choice rest

end

namespace Strict

/-- A length in its shortest form, up to two bytes. -/
def length? : List UInt8 → Option (Nat × List UInt8)
  | b :: rest =>
    if b.toNat < 128 then some (b.toNat, rest)
    else
      match b.toNat, rest with
      | 0x81, x :: r => if 128 ≤ x.toNat then some (x.toNat, r) else none
      | 0x82, x :: y :: r =>
        let n := x.toNat * 256 + y.toNat
        if 256 ≤ n then some (n, r) else none
      | _, _ => none
  | [] => none

/-- The content under a tag, and what follows it. -/
def content? (tag : UInt8) : List UInt8 → Option (List UInt8 × List UInt8)
  | b :: rest =>
    if b == tag then
      (length? rest).bind fun (n, r) => if r.length < n then none else some (r.take n, r.drop n)
    else none
  | [] => none

/-- An integer that is not negative, in its shortest form. -/
def natural? (bytes : List UInt8) : Option (Nat × List UInt8) := do
  let (content, rest) ← content? 0x02 bytes
  match content with
  | [] => none
  | [b] => if b.toNat < 128 then some (b.toNat, rest) else none
  | b :: c :: more =>
    if 128 ≤ b.toNat || (b == 0 && c.toNat < 128) then none
    else some ((b :: c :: more).foldl (fun n x => n * 256 + x.toNat) 0, rest)

/-- A positive integer. -/
def positive? (bytes : List UInt8) : Option (Nat × List UInt8) :=
  match natural? bytes with
  | some (n, rest) => if n == 0 then none else some (n, rest)
  | none => none

/-- The content of a sequence that nothing follows. -/
def sequence? (bytes : List UInt8) : Option (List UInt8) :=
  match content? 0x30 bytes with
  | some (content, []) => some content
  | _ => none

end Strict

end SessionTokens.Der
