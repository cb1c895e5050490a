import DiagramStudio.Color.Basic
import DiagramStudio.Text.White

/-!
Reading the text of a color. Tokens may have comments and white space between them; the arguments of
a function stand between parentheses, separated by spaces, or in the older functions by commas
throughout if a comma follows the first. Numbers are scaled in double precision before they become
coordinates.
-/

namespace DiagramStudio.Color

open Number

/-- White space between tokens. -/
def isSpace (c : Char) : Bool :=
  c == ' ' || c == '\t' || c == '\r' || c == '\n'

/-- The text behind a comment at its front, if one stands there and is closed. -/
def afterComment? (s : List Char) : Option (List Char) :=
  (Text.dropFront? "/*".toList s).bind fun rest => (Text.cutAt? "*/".toList rest).map (·.2)

/-- A comment that is never closed stands at the front. -/
def opensComment (s : List Char) : Bool :=
  "/*".toList.isPrefixOf s

/-- The text behind the comments at its front; `fuel` comments are skipped at most. -/
def skipCommentsWithin : Nat → List Char → List Char
  | 0, s => s
  | fuel + 1, s =>
    match afterComment? s with
    | some rest => skipCommentsWithin fuel rest
    | none => s

/-- The text behind the comments at its front, or nothing if one is never closed. -/
def skipComments? (s : List Char) : Option (List Char) :=
  let rest := skipCommentsWithin s.length s
  if opensComment rest then none else some rest

/-- The text behind comments and white space at its front; `fuel` of either are skipped at most. -/
def skipSpaceWithin : Nat → List Char → List Char
  | 0, s => s
  | fuel + 1, s =>
    match s with
    | c :: rest =>
      if isSpace c then skipSpaceWithin fuel rest
      else
        match afterComment? s with
        | some rest => skipSpaceWithin fuel rest
        | none => s
    | [] => []

/-- The text behind comments and white space at its front. -/
def skipSpace (s : List Char) : List Char :=
  skipSpaceWithin s.length s

/-- A sign, or nothing. -/
def signSpan : List Char → List Char × List Char
  | c :: rest => if c == '+' || c == '-' then ([c], rest) else ([], c :: rest)
  | [] => ([], [])

/-- A point and the digits behind it; a point that no digit follows is not part of the number. -/
def pointSpan : List Char → List Char × List Char
  | '.' :: rest =>
    match rest.takeWhile isDigit with
    | [] => ([], '.' :: rest)
    | ds => ('.' :: ds, rest.dropWhile isDigit)
  | s => ([], s)

/-- The exponent of a number, if digits follow its mark; else nothing. -/
def exponentSpan : List Char → List Char × List Char
  | c :: rest =>
    if c == 'e' || c == 'E' then
      let (sign, more) := signSpan rest
      match more.takeWhile isDigit with
      | [] => ([], c :: rest)
      | ds => (c :: sign ++ ds, more.dropWhile isDigit)
    else ([], c :: rest)
  | [] => ([], [])

/-- The number at the front of the text, after comments, and what follows it. -/
def number? (s : List Char) : Option (Float × List Char) := do
  let s ← skipComments? s
  let (sign, rest) := signSpan s
  let whole := rest.takeWhile isDigit
  let (fraction, rest) := pointSpan (rest.dropWhile isDigit)
  if (whole ++ fraction).any isDigit then
    let (exponent, rest) := exponentSpan rest
    let literal ← Literal.read? (sign ++ whole ++ fraction ++ exponent)
    return (literal.toDouble, rest)
  else none

/-- The characters of an identifier behind its first; digits are not among them directly behind a
    hyphen that opens it. -/
def isNameChar (c : Char) : Bool :=
  c.isAlpha || c == '_' || c == '-'

/-- The identifier at the front of the text and what follows it. A hyphen alone is none, nor is
    anything that begins with two. -/
def identifier? (s : List Char) : Option (List Char × List Char) :=
  match s with
  | '-' :: c :: _ =>
    if isNameChar c && c != '-' then
      some ('-' :: (s.drop 1).takeWhile fun d => isNameChar d || isDigit d,
        (s.drop 1).dropWhile fun d => isNameChar d || isDigit d)
    else none
  | c :: rest =>
    if isNameChar c && c != '-' then
      some (c :: rest.takeWhile fun d => isNameChar d || isDigit d,
        rest.dropWhile fun d => isNameChar d || isDigit d)
    else none
  | [] => none

/-- An argument of a function. -/
inductive Argument where
  | number (n : Float)
  | percent (n : Float)
  | dimension (n : Float) (unit : List Char)
  | word (name : List Char)

/-- The argument at the front of the text and what follows it. -/
def argument? (s : List Char) : Option (Argument × List Char) :=
  match number? s with
  | some (n, rest) =>
    match rest with
    | '%' :: more => some (.percent n, more)
    | _ =>
      match identifier? rest with
      | some (unit, more) => some (.dimension n unit, more)
      | none => some (.number n, rest)
  | none => (identifier? ((skipComments? s).getD s)).map fun (name, rest) => (.word name, rest)

/-- A step of reading: it takes text from the front or finds a fault. -/
abbrev Reader := StateT (List Char) (Except ColorFault)

namespace Reader

/-- A character at the very front. -/
def next (c : Char) (fault : ColorFault) : Reader Unit := fun s =>
  match s with
  | d :: rest => if d == c then .ok ((), rest) else .error fault
  | [] => .error fault

/-- Whether a character stands at the front behind comments; it is taken if so. -/
def takes (c : Char) : Reader Bool := fun s =>
  match skipComments? s with
  | some (d :: rest) => if d == c then .ok (true, rest) else .ok (false, s)
  | _ => .ok (false, s)

def space : Reader Unit := modify skipSpace

/-- The argument behind white space. -/
def argument (fault : ColorFault) : Reader Argument := fun s =>
  match argument? (skipSpace s) with
  | some (found, rest) => .ok (found, rest)
  | none => .error fault

/-- The word for a missing coordinate. -/
def isNone (name : List Char) : Bool :=
  Text.sameFolded name "none".toList

/-- A coordinate: a number times `scale`, a percentage times `percentScale`, or missing. -/
def component (scale percentScale : Float) : Reader (Option Float) := do
  match ← argument .unknownComponent with
  | .number n => return some (n * scale)
  | .percent n => return some (n * percentScale)
  | .word name => if isNone name then return none else throw .unknownComponent
  | .dimension .. => throw .unknownComponent

/-- The degrees in a unit of angle. -/
def degrees? (unit : List Char) : Option Float :=
  if Text.sameFolded unit "deg".toList then some 1
  else if Text.sameFolded unit "rad".toList then some 57.29577951308232
  else if Text.sameFolded unit "grad".toList then some 0.9
  else if Text.sameFolded unit "turn".toList then some 360
  else none

/-- An angle in degrees, or missing. -/
def angle : Reader (Option Float) := do
  match ← argument .unknownAngle with
  | .number n => return some n
  | .word name => if isNone name then return none else throw .unknownAngle
  | .dimension n unit =>
    match degrees? unit with
    | some scale => return some (n * scale)
    | none => throw .unknownAngleUnit
  | .percent _ => throw .unknownAngle

/-- A value held between two bounds. -/
def held (low high x : Float) : Float :=
  if x < low then low else if high < x then high else x

/-- A value that is at least zero. -/
def atLeastZero (x : Float) : Float :=
  if x < 0 then 0 else x

/-- The separator of arguments where commas are used. -/
def separator (commas : Bool) : Reader Unit := do
  space
  if commas then
    if !(← takes ',') then throw .expectedComma

/-- The opacity, whole if it is left out, and the parenthesis that closes the arguments. -/
def opacity (commas : Bool) : Reader (Option Float) := do
  space
  let given ← takes (if commas then ',' else '/')
  let alpha ← if given then component 1 0.01 else pure (some 1)
  space
  if !(← takes ')') then throw .expectedClosing
  return alpha.map (held 0 1)

def coordinates (a b c alpha : Option Float) : Coordinates :=
  ⟨a.map Single.ofDouble, b.map Single.ofDouble, c.map Single.ofDouble, alpha.map Single.ofDouble⟩

/-- The arguments of the channel function. -/
def channelArguments : Reader Coordinates := do
  let channel : Reader (Option Float) := return (← component (1 / 255) 0.01).map (held 0 1)
  let r ← channel
  space
  let commas ← takes ','
  let g ← channel
  separator commas
  let b ← channel
  return coordinates r g b (← opacity commas)

/-- The arguments of the hue and saturation function. A comma that tells the older form has to follow
    the angle at once; only a comment may come between them. -/
def saturationArguments : Reader Coordinates := do
  let h ← angle
  let commas ← takes ','
  let s := (← component 1 1).map atLeastZero
  separator commas
  let l ← component 1 1
  return coordinates h s l (← opacity commas)

/-- The arguments of the hue and whiteness function. -/
def whitenessArguments : Reader Coordinates := do
  let h ← angle
  let w ← component 1 1
  let b ← component 1 1
  return coordinates h w b (← opacity false)

/-- The greatest lightness of a perceptual space, and what a hundred percent of the other coordinates
    is a hundred times of. -/
def reach : PerceptualSpace → Float × Float
  | .lab | .lch => (100, 1.25)
  | .oklab | .oklch => (1, 0.004)

/-- The arguments of a function of a perceptual space. -/
def perceptualArguments (space : PerceptualSpace) : Reader Coordinates := do
  let (lightest, scale) := reach space
  let l := (← component 1 (0.01 * lightest)).map (held 0 lightest)
  match space with
  | .lab | .oklab =>
    let a ← component 1 scale
    let b ← component 1 scale
    return coordinates l a b (← opacity false)
  | .lch | .oklch =>
    let c := (← component 1 scale).map atLeastZero
    let h ← angle
    return coordinates l c h (← opacity false)

/-- The color space that a name calls; one of them has two names. -/
def space? (name : List Char) : Option ColorSpace :=
  if Text.sameFolded name "xyz".toList then some .xyzD65
  else
    [ColorSpace.srgb, .linearSrgb, .displayP3, .a98Rgb, .proPhotoRgb, .rec2020, .xyzD50,
      .xyzD65].find? fun space => Text.sameFolded name space.name.toList

/-- The arguments of the function that takes the name of a space. -/
def spaceArguments : Reader Color := do
  space
  match identifier? (← get) with
  | none => throw .expectedSpaceName
  | some (name, rest) =>
    set rest
    match space? name with
    | none => throw .unknownSpace
    | some space =>
      let a ← component 1 0.01
      let b ← component 1 0.01
      let c ← component 1 0.01
      return .inSpace space (coordinates a b c (← opacity false))

/-- The functions that a color can be written with, by their names in small letters. -/
def functions : List (String × Reader Color) :=
  [("rgb", .channels <$> channelArguments),
   ("rgba", .channels <$> channelArguments),
   ("hsl", .hueSaturation <$> saturationArguments),
   ("hsla", .hueSaturation <$> saturationArguments),
   ("hwb", .hueWhiteness <$> whitenessArguments),
   ("lab", .perceptual .lab <$> perceptualArguments .lab),
   ("lch", .perceptual .lch <$> perceptualArguments .lch),
   ("oklab", .perceptual .oklab <$> perceptualArguments .oklab),
   ("oklch", .perceptual .oklch <$> perceptualArguments .oklch),
   ("color", spaceArguments)]

/-- A color that begins with a word: a function with its arguments, or a name. -/
def wordColor (word : List Char) : Reader Color :=
  let name := String.ofList (Text.lower word)
  match functions.find? fun (known, _) => known == name with
  | some (_, arguments) => do
    next '(' .expectedArguments
    arguments
  | none => if names.contains name then pure (.named name) else throw .unknownIdentifier

end Reader

/-- A hexadecimal digit. -/
def hexValue? (c : Char) : Option Nat :=
  if '0' ≤ c ∧ c ≤ '9' then some (c.toNat - '0'.toNat)
  else if 'a' ≤ c ∧ c ≤ 'f' then some (c.toNat - 'a'.toNat + 10)
  else if 'A' ≤ c ∧ c ≤ 'F' then some (c.toNat - 'A'.toNat + 10)
  else none

/-- A coordinate of so many parts of 255. -/
def ofPart (n : Nat) : Coordinate :=
  some (Single.ofInt n * (1 / 255))

/-- The color of a row of hexadecimal digits: one or two for each channel, with or without opacity. -/
def ofHex? : List Nat → Option Coordinates
  | [r, g, b] => some ⟨ofPart (17 * r), ofPart (17 * g), ofPart (17 * b), some 1⟩
  | [r, g, b, a] => some ⟨ofPart (17 * r), ofPart (17 * g), ofPart (17 * b), ofPart (17 * a)⟩
  | [r, r', g, g', b, b'] =>
    some ⟨ofPart (16 * r + r'), ofPart (16 * g + g'), ofPart (16 * b + b'), some 1⟩
  | [r, r', g, g', b, b', a, a'] =>
    some ⟨ofPart (16 * r + r'), ofPart (16 * g + g'), ofPart (16 * b + b'), ofPart (16 * a + a')⟩
  | _ => none

/-- The most hexadecimal digits that a color is read from. -/
def hexDigitsMax : Nat := 8

/-- The color at the front of the text and what follows it. -/
def front (s : List Char) : Except ColorFault (Color × List Char) :=
  match s with
  | '#' :: rest =>
    let digits := (rest.takeWhile fun c => (hexValue? c).isSome).take hexDigitsMax
    match ofHex? (digits.filterMap hexValue?) with
    | some c => .ok (.channels c, rest.drop digits.length)
    | none => .error .wrongHexDigits
  | _ =>
    match identifier? s with
    | some (word, rest) => (Reader.wordColor word).run rest
    | none => .error .unknownForm

/-- The color that the whole of the text is, white space at its ends aside. -/
def read (s : List Char) : Except ColorFault Color := do
  let (color, rest) ← front (Text.trim s)
  if rest.isEmpty then return color else throw .expectedEnd

/-- What is said of a text that is no color. -/
def faultMessage (text : String) (fault : ColorFault) : String :=
  "invalid color `" ++ text ++ "`: " ++ fault.message

end DiagramStudio.Color
