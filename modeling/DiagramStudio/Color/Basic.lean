import DiagramStudio.Number.Single

/-!
Colors as they can be written in a style sheet: by name, by channels, or by coordinates in a color
space, each with an opacity. A color is written back in the form in which it was given, except that
hue forms are written by their channels.
-/

namespace DiagramStudio

/-- The color spaces that can be called by name. -/
inductive ColorSpace where
  | srgb
  | linearSrgb
  | displayP3
  | a98Rgb
  | proPhotoRgb
  | rec2020
  | xyzD50
  | xyzD65
deriving Repr, DecidableEq

def ColorSpace.name : ColorSpace → String
  | srgb => "srgb"
  | linearSrgb => "srgb-linear"
  | displayP3 => "display-p3"
  | a98Rgb => "a98-rgb"
  | proPhotoRgb => "prophoto-rgb"
  | rec2020 => "rec2020"
  | xyzD50 => "xyz-d50"
  | xyzD65 => "xyz-d65"

/-- The functions whose coordinates are written as they are given. -/
inductive PerceptualSpace where
  | lab
  | lch
  | oklab
  | oklch
deriving Repr, DecidableEq

def PerceptualSpace.name : PerceptualSpace → String
  | lab => "lab"
  | lch => "lch"
  | oklab => "oklab"
  | oklch => "oklch"

/-- A coordinate; one that is missing counts as zero. -/
abbrev Coordinate := Option Float32

/-- The three coordinates of a color and its opacity. -/
structure Coordinates where
  first : Coordinate
  second : Coordinate
  third : Coordinate
  alpha : Coordinate

/-- A color, by the form in which it was given. -/
inductive Color where
  | named (name : String)
  /-- Channels between zero and one. -/
  | channels (c : Coordinates)
  /-- Hue in degrees, saturation and lightness in percent. -/
  | hueSaturation (c : Coordinates)
  /-- Hue in degrees, whiteness and blackness in percent. -/
  | hueWhiteness (c : Coordinates)
  | perceptual (space : PerceptualSpace) (c : Coordinates)
  | inSpace (space : ColorSpace) (c : Coordinates)

/-- What is wrong with the text of a color. -/
inductive ColorFault where
  | unknownAngleUnit
  | unknownAngle
  | unknownComponent
  | unknownIdentifier
  | unknownSpace
  | unknownForm
  | expectedArguments
  | expectedClosing
  | expectedSpaceName
  | expectedComma
  | expectedEnd
  | wrongHexDigits
deriving Repr, DecidableEq

def ColorFault.message : ColorFault → String
  | unknownAngleUnit => "unknown angle dimension"
  | unknownAngle => "unknown angle"
  | unknownComponent => "unknown color component"
  | unknownIdentifier => "unknown color identifier"
  | unknownSpace => "unknown color space"
  | unknownForm => "unknown color syntax"
  | expectedArguments => "expected arguments"
  | expectedClosing => "expected closing parenthesis"
  | expectedSpaceName => "expected color space identifier"
  | expectedComma => "expected comma"
  | expectedEnd => "expected end of string"
  | wrongHexDigits => "wrong number of hex digits"

namespace Color

open Number

/-- The name of the one color that cannot be seen. -/
def transparentName : String := "transparent"

/-- The names of colors. -/
def names : List String :=
  ["aliceblue", "antiquewhite", "aqua", "aquamarine", "azure", "beige", "bisque", "black",
   "blanchedalmond", "blue", "blueviolet", "brown", "burlywood", "cadetblue", "chartreuse",
   "chocolate", "coral", "cornflowerblue", "cornsilk", "crimson", "cyan", "darkblue", "darkcyan",
   "darkgoldenrod", "darkgray", "darkgreen", "darkkhaki", "darkmagenta", "darkolivegreen",
   "darkorange", "darkorchid", "darkred", "darksalmon", "darkseagreen", "darkslateblue",
   "darkslategray", "darkturquoise", "darkviolet", "deeppink", "deepskyblue", "dimgray",
   "dodgerblue", "firebrick", "floralwhite", "forestgreen", "fuchsia", "gainsboro", "ghostwhite",
   "gold", "goldenrod", "gray", "green", "greenyellow", "honeydew", "hotpink", "indianred",
   "indigo", "ivory", "khaki", "lavender", "lavenderblush", "lawngreen", "lemonchiffon",
   "lightblue", "lightcoral", "lightcyan", "lightgoldenrodyellow", "lightgray", "lightgreen",
   "lightpink", "lightsalmon", "lightseagreen", "lightskyblue", "lightslategray",
   "lightsteelblue", "lightyellow", "lime", "limegreen", "linen", "magenta", "maroon",
   "mediumaquamarine", "mediumblue", "mediumorchid", "mediumpurple", "mediumseagreen",
   "mediumslateblue", "mediumspringgreen", "mediumturquoise", "mediumvioletred", "midnightblue",
   "mintcream", "mistyrose", "moccasin", "navajowhite", "navy", "oldlace", "olive", "olivedrab",
   "orange", "orangered", "orchid", "palegoldenrod", "palegreen", "paleturquoise",
   "palevioletred", "papayawhip", "peachpuff", "peru", "pink", "plum", "powderblue", "purple",
   "rebeccapurple", "red", "rosybrown", "royalblue", "saddlebrown", "salmon", "sandybrown",
   "seagreen", "seashell", "sienna", "silver", "skyblue", "slateblue", "slategray", "snow",
   "springgreen", "steelblue", "tan", "teal", "thistle", "tomato", transparentName, "turquoise",
   "violet", "wheat", "white", "whitesmoke", "yellow", "yellowgreen"]

/-- A channel of a hue form: `step` is 0 for red, 8 for green and 4 for blue. -/
def hueChannel (hue saturation lightness step : Float32) : Float32 :=
  let saturation := saturation * 0.01
  let lightness := lightness * 0.01
  let reach := saturation * Single.lesser lightness (1 - lightness)
  let x := step + hue * (1 / 30)
  let k := x - 12 * Single.floor (x * (1 / 12))
  let wave := Single.lesser (k - 3) (9 - k)
  let held := if wave < -1 then -1 else if 1 < wave then 1 else wave
  lightness - reach * held

/-- A channel of a whiteness form. Where white and black fill the color it is a gray. -/
def whitenessChannel (hue whiteness blackness step : Float32) : Float32 :=
  let white := whiteness * 0.01
  let black := blackness * 0.01
  if 1 <= white + black then white / (white + black)
  else hueChannel hue 100 50 step * (1 - white - black) + white

/-- The channels that a function gives for steps 0, 8 and 4. A missing opacity stays missing. -/
def channelsBy (f : Float32 → Float32 → Float32 → Float32 → Float32) (c : Coordinates) :
    Coordinates :=
  let at' := f (c.first.getD 0) (c.second.getD 0) (c.third.getD 0)
  ⟨some (at' 0), some (at' 8), some (at' 4), c.alpha⟩

/-- The opacity, from nothing to all. -/
def alpha : Color → Float32
  | named name => if name == transparentName then 0 else 1
  | channels c | hueSaturation c | hueWhiteness c | perceptual _ c | inSpace _ c => c.alpha.getD 0

/-- A coordinate multiplied by `scale`, or the word for a missing one. -/
def coordinateText (scale : Float32) : Coordinate → String
  | none => "none"
  | some x => String.ofList (Single.text (x * scale))

/-- Coordinates with spaces between them; the opacity follows a slash, and only where it is less than
    whole. -/
def spaced (c : Coordinates) : String :=
  let opacity := if c.alpha.getD 0 < 1 then " / " ++ coordinateText 1 c.alpha else ""
  coordinateText 1 c.first ++ " " ++ coordinateText 1 c.second ++ " " ++ coordinateText 1 c.third
    ++ opacity

/-- Channels of up to 255 with commas between them, and the opacity where it is less than whole. -/
def channelText (c : Coordinates) : String :=
  let seen := c.alpha.getD 0 < 1
  (if seen then "rgba(" else "rgb(") ++ coordinateText 255 c.first ++ ", "
    ++ coordinateText 255 c.second ++ ", " ++ coordinateText 255 c.third
    ++ (if seen then ", " ++ coordinateText 1 c.alpha else "") ++ ")"

/-- The text of a color. -/
def display : Color → String
  | named name => name
  | channels c => channelText c
  | hueSaturation c => channelText (channelsBy hueChannel c)
  | hueWhiteness c => channelText (channelsBy whitenessChannel c)
  | perceptual space c => space.name ++ "(" ++ spaced c ++ ")"
  | inSpace space c => "color(" ++ space.name ++ " " ++ spaced c ++ ")"

end Color

end DiagramStudio
