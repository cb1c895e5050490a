/-!
UTF-8: the bytes of a text, the text that bytes spell, and the text that is left when every
ill-formed sequence is replaced.
-/

namespace DiagramStudio.Text.Utf8

/-- The bytes of a text. -/
def encode (s : List Char) : List UInt8 :=
  s.flatMap String.utf8EncodeChar

/-- The length of the sequence that a first byte opens; zero if it opens none. -/
def width (a : UInt8) : Nat :=
  if a < 0x80 then 1
  else if a < 0xC2 then 0
  else if a < 0xE0 then 2
  else if a < 0xF0 then 3
  else if a < 0xF5 then 4
  else 0

/-- Any byte but the first of a sequence. -/
def isTail (b : UInt8) : Bool :=
  0x80 ≤ b && b ≤ 0xBF

/-- The byte `b` may follow the first byte `a`. This is where overlong forms, surrogates and what
    lies beyond the last code point are refused. -/
def mayFollow (a b : UInt8) : Bool :=
  if a == 0xE0 then 0xA0 ≤ b && b ≤ 0xBF
  else if a == 0xED then 0x80 ≤ b && b ≤ 0x9F
  else if a == 0xF0 then 0x90 ≤ b && b ≤ 0xBF
  else if a == 0xF4 then 0x80 ≤ b && b ≤ 0x8F
  else isTail b

/-- The six low bits of a byte, put behind the bits read before. -/
def push (n : Nat) (b : UInt8) : Nat :=
  n * 64 + b.toNat % 64

/-- The first sequence of `a :: rest`: its character, or `none` if it is ill-formed, and the bytes
    behind it. An ill-formed sequence ends where no continuation of it could be well-formed. -/
def scan (a : UInt8) (rest : List UInt8) : Option Char × List UInt8 :=
  match width a with
  | 1 => (some (Char.ofNat a.toNat), rest)
  | 2 =>
    match rest with
    | b :: more =>
      if mayFollow a b then (some (Char.ofNat (push (a.toNat % 32) b)), more) else (none, rest)
    | [] => (none, [])
  | 3 =>
    match rest with
    | b :: more =>
      if mayFollow a b then
        match more with
        | c :: more' =>
          if isTail c then (some (Char.ofNat (push (push (a.toNat % 16) b) c)), more') else (none, more)
        | [] => (none, [])
      else (none, rest)
    | [] => (none, [])
  | 4 =>
    match rest with
    | b :: more =>
      if mayFollow a b then
        match more with
        | c :: more' =>
          if isTail c then
            match more' with
            | d :: more'' =>
              if isTail d then
                (some (Char.ofNat (push (push (push (a.toNat % 8) b) c) d)), more'')
              else (none, more')
            | [] => (none, [])
          else (none, more)
        | [] => (none, [])
      else (none, rest)
    | [] => (none, [])
  | _ => (none, rest)

/-- A scan never gives back more than the bytes behind the first. -/
theorem scan_length_le (a : UInt8) (rest : List UInt8) : (scan a rest).2.length ≤ rest.length := by
  unfold scan
  split <;> (repeat' split) <;> simp_all <;> omega

/-- The text that the bytes spell, if they are well-formed. -/
def decode? : List UInt8 → Option (List Char)
  | [] => some []
  | a :: rest =>
    match (scan a rest).1 with
    | some c => (decode? (scan a rest).2).map (c :: ·)
    | none => none
termination_by bytes => bytes.length
decreasing_by exact Nat.lt_succ_of_le (scan_length_le a rest)

/-- What stands for an ill-formed sequence. -/
def replacement : Char := '\uFFFD'

/-- The text that the bytes spell, each ill-formed sequence replaced. -/
def decodeLossy : List UInt8 → List Char
  | [] => []
  | a :: rest => (scan a rest).1.getD replacement :: decodeLossy (scan a rest).2
termination_by bytes => bytes.length
decreasing_by exact Nat.lt_succ_of_le (scan_length_le a rest)

end DiagramStudio.Text.Utf8
