import DiagramStudio.Script.Machine

/-!
Digests: short numbers that tell texts apart. Bytes are filled up to whole blocks, and every block is
stirred into a state; what the state is at the end is the digest. The constants are the leading binary
places of roots of primes and of sines, so nothing is hidden in them.
-/

namespace DiagramStudio.Script.Digest

/-! ## Constants -/

def isPrime (n : Nat) : Bool := 2 ≤ n && (List.range n).all fun d => d < 2 || n % d != 0

/-- The first eighty primes. -/
def primes : List Nat := ((List.range 410).filter isPrime).take 80

/-- The greatest number whose power is not above a number; each unit of the count finds one binary place. -/
def root (power n : Nat) : Nat → Nat → Nat
  | 0, found => found
  | places + 1, found =>
    let more := found + 2 ^ places
    root power n places (if more ^ power ≤ n then more else found)

/-- The first 64 binary places behind the point of a root of a number. -/
def rootPlaces (power n : Nat) : Nat := root power (n * 2 ^ (64 * power)) 72 0 % 2 ^ 64

def squareRoots : List Nat := primes.take 16 |>.map (rootPlaces 2)

def cubeRoots : List Nat := primes.map (rootPlaces 3)

/-- The first 32 binary places of the sines of the first whole numbers. -/
def sines : List UInt32 :=
  (List.range 64).map fun n => (Float.abs (Float.sin (Float.ofNat (n + 1))) * 4294967296.0).toUInt64.toUInt32

/-! ## Blocks -/

/-- A number in so many bytes, the highest first. -/
def bigBytes (count n : Nat) : List UInt8 :=
  (List.range count).map fun i => UInt8.ofNat (n / 256 ^ (count - 1 - i))

/-- A number in so many bytes, the lowest first. -/
def littleBytes (count n : Nat) : List UInt8 := (bigBytes count n).reverse

/-- Bytes filled up to whole blocks: a bit that is set, zeros, and how many bits there are, in `tail` bytes. -/
def filled (block tail : Nat) (lowFirst : Bool) (bytes : List UInt8) : List UInt8 :=
  let length := bytes.length
  let zeros := (2 * block - 1 - tail - length % block) % block
  bytes ++ 128 :: List.replicate zeros 0
    ++ (if lowFirst then littleBytes tail (8 * length) else bigBytes tail (8 * length))

/-- Bytes in groups of so many. Every unit of fuel pays for a group. -/
def grouped (size : Nat) : Nat → List UInt8 → List (List UInt8)
  | 0, _ => []
  | _ + 1, [] => []
  | fuel + 1, bytes => bytes.take size :: grouped size fuel (bytes.drop size)

def blocks (size : Nat) (bytes : List UInt8) : List (List UInt8) := grouped size (bytes.length / size + 1) bytes

/-- The number that bytes spell, the highest first. -/
def bigNumber (bytes : List UInt8) : Nat := bytes.foldl (fun n b => 256 * n + b.toNat) 0

def littleNumber (bytes : List UInt8) : Nat := bigNumber bytes.reverse

/-- The words of a block. -/
def words32 (lowFirst : Bool) (block : List UInt8) : Array UInt32 :=
  ((grouped 4 (block.length / 4) block).map fun w =>
    UInt32.ofNat (if lowFirst then littleNumber w else bigNumber w)).toArray

def words64 (lowFirst : Bool) (block : List UInt8) : Array UInt64 :=
  ((grouped 8 (block.length / 8) block).map fun w =>
    UInt64.ofNat (if lowFirst then littleNumber w else bigNumber w)).toArray

def left32 (w : UInt32) (n : UInt32) : UInt32 := (w <<< n) ||| (w >>> (32 - n))

def right32 (w : UInt32) (n : UInt32) : UInt32 := (w >>> n) ||| (w <<< (32 - n))

def right64 (w : UInt64) (n : UInt64) : UInt64 := (w >>> n) ||| (w <<< (64 - n))

/-! ## Five ways to stir -/

/-- The state of four or five words as it begins. -/
def fiveStart : List UInt32 := [0x67452301, 0xEFCDAB89, 0x98BADCFE, 0x10325476, 0xC3D2E1F0]

/-- By how many places each of the sixty-four steps turns its word. -/
def turns : Array UInt32 :=
  ([[7, 12, 17, 22], [5, 9, 14, 20], [4, 11, 16, 23], [6, 10, 15, 21]].flatMap fun row =>
    row ++ row ++ row ++ row).toArray

def sineArray : Array UInt32 := sines.toArray

def md5Block (state : List UInt32) (block : List UInt8) : List UInt32 :=
  let m := words32 true block
  let step (s : UInt32 × UInt32 × UInt32 × UInt32) (i : Nat) : UInt32 × UInt32 × UInt32 × UInt32 :=
    let (a, b, c, d) := s
    let (f, g) : UInt32 × Nat :=
      if i < 16 then ((b &&& c) ||| (~~~b &&& d), i)
      else if i < 32 then ((d &&& b) ||| (~~~d &&& c), (5 * i + 1) % 16)
      else if i < 48 then (b ^^^ c ^^^ d, (3 * i + 5) % 16)
      else (c ^^^ (b ||| ~~~d), 7 * i % 16)
    let f := f + a + sineArray.getD i 0 + m.getD g 0
    (d, b + left32 f (turns.getD i 0), b, c)
  match state with
  | [a, b, c, d] =>
    let (a', b', c', d') := (List.range 64).foldl step (a, b, c, d)
    [a + a', b + b', c + c', d + d']
  | other => other

def md5 (bytes : List UInt8) : List UInt8 :=
  ((blocks 64 (filled 64 8 true bytes)).foldl md5Block (fiveStart.take 4)).flatMap fun w => littleBytes 4 w.toNat

/-- The words of a block, and those that follow from them, up to a count. -/
def spread32 (next : Array UInt32 → Nat → UInt32) (count : Nat) (block : List UInt8) : Array UInt32 :=
  (List.range (count - 16)).foldl (fun w i => w.push (next w (i + 16))) (words32 false block)

def sha1Block (state : List UInt32) (block : List UInt8) : List UInt32 :=
  let at_ (w : Array UInt32) (i : Nat) : UInt32 := w.getD i 0
  let w := spread32 (fun w i => left32 (at_ w (i - 3) ^^^ at_ w (i - 8) ^^^ at_ w (i - 14) ^^^ at_ w (i - 16)) 1) 80 block
  let step (s : UInt32 × UInt32 × UInt32 × UInt32 × UInt32) (i : Nat) : UInt32 × UInt32 × UInt32 × UInt32 × UInt32 :=
    let (a, b, c, d, e) := s
    let (f, k) : UInt32 × UInt32 :=
      if i < 20 then ((b &&& c) ||| (~~~b &&& d), 0x5A827999)
      else if i < 40 then (b ^^^ c ^^^ d, 0x6ED9EBA1)
      else if i < 60 then ((b &&& c) ||| (b &&& d) ||| (c &&& d), 0x8F1BBCDC)
      else (b ^^^ c ^^^ d, 0xCA62C1D6)
    (left32 a 5 + f + e + k + at_ w i, a, left32 b 30, c, d)
  match state with
  | [a, b, c, d, e] =>
    let (a', b', c', d', e') := (List.range 80).foldl step (a, b, c, d, e)
    [a + a', b + b', c + c', d + d', e + e']
  | other => other

def sha1 (bytes : List UInt8) : List UInt8 :=
  ((blocks 64 (filled 64 8 false bytes)).foldl sha1Block fiveStart).flatMap fun w => bigBytes 4 w.toNat

def cubes32 : Array UInt32 := (cubeRoots.map fun n => UInt32.ofNat (n / 2 ^ 32)).toArray

def cubes64 : Array UInt64 := (cubeRoots.map UInt64.ofNat).toArray

def sha256Block (state : List UInt32) (block : List UInt8) : List UInt32 :=
  let at_ (w : Array UInt32) (i : Nat) : UInt32 := w.getD i 0
  let low (w : UInt32) : UInt32 := right32 w 7 ^^^ right32 w 18 ^^^ (w >>> 3)
  let high (w : UInt32) : UInt32 := right32 w 17 ^^^ right32 w 19 ^^^ (w >>> 10)
  let w := spread32 (fun w i => at_ w (i - 16) + low (at_ w (i - 15)) + at_ w (i - 7) + high (at_ w (i - 2))) 64 block
  let step (s : List UInt32) (i : Nat) : List UInt32 :=
    match s with
    | [a, b, c, d, e, f, g, h] =>
      let t := h + (right32 e 6 ^^^ right32 e 11 ^^^ right32 e 25) + ((e &&& f) ^^^ (~~~e &&& g)) + at_ cubes32 i + at_ w i
      let u := (right32 a 2 ^^^ right32 a 13 ^^^ right32 a 22) + ((a &&& b) ^^^ (a &&& c) ^^^ (b &&& c))
      [t + u, a, b, c, d + t, e, f, g]
    | other => other
  (state.zip ((List.range 64).foldl step state)).map fun (a, b) => a + b

/-- The digest of as many words as are asked for. -/
def sha256From (start : List UInt32) (count : Nat) (bytes : List UInt8) : List UInt8 :=
  (((blocks 64 (filled 64 8 false bytes)).foldl sha256Block start).take count).flatMap fun w => bigBytes 4 w.toNat

def sha256 : List UInt8 → List UInt8 :=
  sha256From ((squareRoots.take 8).map fun n => UInt32.ofNat (n / 2 ^ 32)) 8

def sha224 : List UInt8 → List UInt8 := sha256From ((squareRoots.drop 8).map fun n => UInt32.ofNat (n % 2 ^ 32)) 7

def sha512Block (state : List UInt64) (block : List UInt8) : List UInt64 :=
  let at_ (w : Array UInt64) (i : Nat) : UInt64 := w.getD i 0
  let low (w : UInt64) : UInt64 := right64 w 1 ^^^ right64 w 8 ^^^ (w >>> 7)
  let high (w : UInt64) : UInt64 := right64 w 19 ^^^ right64 w 61 ^^^ (w >>> 6)
  let next (w : Array UInt64) (i : Nat) : UInt64 := at_ w (i - 16) + low (at_ w (i - 15)) + at_ w (i - 7) + high (at_ w (i - 2))
  let w := (List.range 64).foldl (fun w i => w.push (next w (i + 16))) (words64 false block)
  let step (s : List UInt64) (i : Nat) : List UInt64 :=
    match s with
    | [a, b, c, d, e, f, g, h] =>
      let t := h + (right64 e 14 ^^^ right64 e 18 ^^^ right64 e 41) + ((e &&& f) ^^^ (~~~e &&& g)) + at_ cubes64 i + at_ w i
      let u := (right64 a 28 ^^^ right64 a 34 ^^^ right64 a 39) + ((a &&& b) ^^^ (a &&& c) ^^^ (b &&& c))
      [t + u, a, b, c, d + t, e, f, g]
    | other => other
  (state.zip ((List.range 80).foldl step state)).map fun (a, b) => a + b

def sha512From (start : List UInt64) (count : Nat) (bytes : List UInt8) : List UInt8 :=
  (((blocks 128 (filled 128 16 false bytes)).foldl sha512Block start).take count).flatMap fun w => bigBytes 8 w.toNat

def sha512 : List UInt8 → List UInt8 := sha512From ((squareRoots.take 8).map UInt64.ofNat) 8

def sha384 : List UInt8 → List UInt8 := sha512From ((squareRoots.drop 8).map UInt64.ofNat) 6

/-! ## A way that mixes pairs of words -/

/-- In which order the rounds take the words of a block. -/
def orders : List (List Nat) :=
  [[0, 1, 2, 3, 4, 5, 6, 7, 8, 9, 10, 11, 12, 13, 14, 15], [14, 10, 4, 8, 9, 15, 13, 6, 1, 12, 0, 2, 11, 7, 5, 3],
    [11, 8, 12, 0, 5, 2, 15, 13, 10, 14, 3, 6, 7, 1, 9, 4], [7, 9, 3, 1, 13, 12, 11, 14, 2, 6, 5, 10, 4, 0, 15, 8],
    [9, 0, 5, 7, 2, 4, 10, 15, 14, 1, 11, 12, 6, 8, 3, 13], [2, 12, 6, 10, 0, 11, 8, 3, 4, 13, 7, 5, 15, 14, 1, 9],
    [12, 5, 1, 15, 14, 13, 4, 10, 0, 7, 6, 3, 9, 2, 8, 11], [13, 11, 7, 14, 12, 1, 3, 9, 5, 0, 15, 4, 8, 6, 2, 10],
    [6, 15, 14, 9, 11, 3, 0, 8, 12, 2, 13, 7, 1, 4, 10, 5], [10, 2, 8, 4, 7, 6, 1, 5, 15, 11, 9, 14, 3, 12, 13, 0]]

/-- The four words that each mixing takes. -/
def quarters : List (Nat × Nat × Nat × Nat) :=
  [(0, 4, 8, 12), (1, 5, 9, 13), (2, 6, 10, 14), (3, 7, 11, 15), (0, 5, 10, 15), (1, 6, 11, 12), (2, 7, 8, 13),
    (3, 4, 9, 14)]

/-- One mixing of four words with two words of a block. -/
def mixed (v : Array UInt64) (q : Nat × Nat × Nat × Nat) (x y : UInt64) : Array UInt64 :=
  let (a, b, c, d) := q
  let at_ (v : Array UInt64) (i : Nat) : UInt64 := v.getD i 0
  let half (v : Array UInt64) (word : UInt64) (r s : UInt64) : Array UInt64 :=
    let v := v.setIfInBounds a (at_ v a + at_ v b + word)
    let v := v.setIfInBounds d (right64 (at_ v d ^^^ at_ v a) r)
    let v := v.setIfInBounds c (at_ v c + at_ v d)
    v.setIfInBounds b (right64 (at_ v b ^^^ at_ v c) s)
  half (half v x 32 24) y 16 63

def blake2bBlock (start : List UInt64) (state : List UInt64) (block : List UInt8) (count : Nat) (last : Bool) : List UInt64 :=
  let m := words64 true (block ++ List.replicate (128 - block.length) 0)
  let v := (state ++ start).toArray
  let v := v.setIfInBounds 12 (v.getD 12 0 ^^^ UInt64.ofNat count)
  let v := if last then v.setIfInBounds 14 (~~~(v.getD 14 0)) else v
  let rounds := (orders ++ orders.take 2)
  let v := rounds.foldl (fun v order =>
    let order := order.toArray
    quarters.zipIdx.foldl (fun v (q, i) =>
      mixed v q (m.getD (order.getD (2 * i) 0) 0) (m.getD (order.getD (2 * i + 1) 0) 0)) v) v
  state.zipIdx.map fun (h, i) => h ^^^ v.getD i 0 ^^^ v.getD (i + 8) 0

/-- A digest of so many bytes. -/
def blake2b (size : Nat) (bytes : List UInt8) : List UInt8 :=
  let start := (squareRoots.take 8).map UInt64.ofNat
  let first := match start with
    | h :: more => (h ^^^ 0x01010000 ^^^ UInt64.ofNat size) :: more
    | [] => []
  let parts := match blocks 128 bytes with
    | [] => [[]]
    | found => found
  let (state, _) := parts.zipIdx.foldl (fun (entry : List UInt64 × Nat) (block, i) =>
    let count := entry.2 + block.length
    (blake2bBlock start entry.1 block count (i + 1 == parts.length), count)) (first, 0)
  (state.flatMap fun w => littleBytes 8 w.toNat).take size

/-! ## Sums -/

/-- One byte of a cyclic redundancy check. -/
def crcByte (crc : UInt32) (b : UInt8) : UInt32 :=
  (List.range 8).foldl (fun (crc : UInt32) _ =>
    if crc >>> 31 = 1 then (crc <<< 1) ^^^ 0x04C11DB7 else crc <<< 1) (crc ^^^ (UInt32.ofNat b.toNat <<< 24))

/-- The bytes of a length, the lowest first, without zeros at the end. -/
def lengthBytes : Nat → Nat → List UInt8
  | 0, _ => []
  | fuel + 1, n => if n = 0 then [] else UInt8.ofNat n :: lengthBytes fuel (n / 256)

/-- The cyclic redundancy check of bytes and their number. -/
def crc (bytes : List UInt8) : Nat :=
  (~~~((bytes ++ lengthBytes 8 bytes.length).foldl crcByte 0)).toNat

/-- A sum of sixteen bits that is turned by one place before each byte. -/
def turningSum (bytes : List UInt8) : Nat :=
  bytes.foldl (fun n b => (n / 2 + n % 2 * 32768 + b.toNat) % 65536) 0

/-- The sum of bytes, folded into sixteen bits. -/
def plainSum (bytes : List UInt8) : Nat :=
  let sum := (bytes.foldl (fun n b => n + b.toNat) 0) % 2 ^ 32
  let folded := sum % 65536 + sum / 65536
  folded % 65536 + folded / 65536

/-- Bytes in digits of base sixteen. -/
def hex (bytes : List UInt8) : List Char :=
  bytes.flatMap fun b => [Nat.digitChar (b.toNat / 16), Nat.digitChar (b.toNat % 16)]

/-- What a digest is called, and how it is told from bytes. -/
structure Kind where
  name : String
  bytes : Nat
  act : List UInt8 → List UInt8

def kinds : List (String × Kind) :=
  [("md5", ⟨"MD5", 16, md5⟩), ("sha1", ⟨"SHA1", 20, sha1⟩), ("sha224", ⟨"SHA224", 28, sha224⟩),
    ("sha256", ⟨"SHA256", 32, sha256⟩), ("sha384", ⟨"SHA384", 48, sha384⟩), ("sha512", ⟨"SHA512", 64, sha512⟩),
    ("blake2b", ⟨"BLAKE2b", 64, blake2b 64⟩)]

end DiagramStudio.Script.Digest
