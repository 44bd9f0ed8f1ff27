/-
Colours of a terminal.

A colour is the one that the terminal itself prefers, one of a palette of 256, or a mixture of red,
green and blue. The palette begins with sixteen colours that every terminal has; then come a cube of
six levels of red, green and blue, and a row of greys. A terminal with fewer colours shows the
nearest one that it has.
-/
import OpenApi.Decimal.Binary64
import OpenApi.Text.Case

set_option autoImplicit false

namespace OpenApi.Terminal

open OpenApi.Decimal.Binary64 (roundDiv)

/-- How many colours a terminal has: sixteen, the palette, or all mixtures. -/
inductive Depth where
  | sixteen
  | palette
  | mixtures
deriving DecidableEq, Repr

/-! ## Mixtures -/

/-- Shares of red, green and blue, from 0 to 255. -/
structure Mixture where
  red : Nat
  green : Nat
  blue : Nat
deriving DecidableEq, Repr

namespace Mixture

/-- How the sixteen colours look. -/
def ofSixteen : List Mixture :=
  [⟨0, 0, 0⟩, ⟨170, 0, 0⟩, ⟨0, 170, 0⟩, ⟨170, 85, 0⟩, ⟨0, 0, 170⟩, ⟨170, 0, 170⟩,
    ⟨0, 170, 170⟩, ⟨170, 170, 170⟩, ⟨85, 85, 85⟩, ⟨255, 85, 85⟩, ⟨85, 255, 85⟩,
    ⟨255, 255, 85⟩, ⟨85, 85, 255⟩, ⟨255, 85, 255⟩, ⟨85, 255, 255⟩, ⟨255, 255, 255⟩]

/-- The share of a colour at a level of the cube. -/
def ofLevel (level : Nat) : Nat := if level = 0 then 0 else 55 + 40 * level

/-- How a colour of the palette looks, from the seventeenth on. -/
def ofPalette (index : Nat) : Mixture :=
  if index < 232 then
    let place := index - 16
    ⟨ofLevel (place / 36), ofLevel (place / 6 % 6), ofLevel (place % 6)⟩
  else
    let grey := 8 + 10 * (index - 232)
    ⟨grey, grey, grey⟩

/-- The square of the difference of two shares. -/
def squareOf (a b : Nat) : Nat := (max a b - min a b) * (max a b - min a b)

/-- How far two mixtures are from each other, squared. Red counts more among bright reds, and
blue among dark ones. -/
def distance (a b : Mixture) : Nat :=
  let red := (a.red + b.red) / 2
  (512 + red) * squareOf a.red b.red / 256 + 4 * squareOf a.green b.green
    + (767 - red) * squareOf a.blue b.blue / 256

/-- The place of the nearest of some mixtures, of several the first, behind the best so far. -/
def nearestFrom (m : Mixture) (place : Nat) (best : Nat × Nat) : List Mixture → Nat
  | [] => best.1
  | candidate :: rest =>
    let d := m.distance candidate
    m.nearestFrom (place + 1) (if d < best.2 then (place, d) else best) rest

/-- The nearest of the sixteen colours. -/
def nearestOfSixteen (m : Mixture) : Nat :=
  m.nearestFrom 0 (0, m.distance ⟨0, 0, 0⟩) ofSixteen

/-- The nearest level of the cube. -/
def level (share : Nat) : Nat :=
  if share < 95 then roundDiv share 95 else roundDiv (share - 55) 40

/-- The nearest colour of the palette: a grey if the mixture is nearly one, and otherwise a colour
of the cube. -/
def nearestOfPalette (m : Mixture) : Nat :=
  let most := max m.red (max m.green m.blue)
  let least := min m.red (min m.green m.blue)
  let light := most + least
  let range := if light ≤ 255 then light else 510 - light
  if most = least || 20 * (most - least) < 3 * range then
    let grey := roundDiv (5 * light) 102
    if grey = 0 then 16 else if grey = 25 then 231 else 231 + grey
  else 16 + 36 * level m.red + 6 * level m.green + level m.blue

end Mixture

/-! ## Hues -/

/-- What a colour is: the one that the terminal prefers, one of the palette, or a mixture. -/
inductive Hue where
  | preferred
  | indexed (index : Nat)
  | mixed (m : Mixture)
deriving DecidableEq, Repr

namespace Hue

/-- The nearest hue that a terminal has. -/
def within (depth : Depth) : Hue → Hue
  | .preferred => .preferred
  | .indexed index =>
    if depth = .sixteen && 16 ≤ index then
      .indexed (Mixture.nearestOfSixteen (Mixture.ofPalette index))
    else .indexed index
  | .mixed m =>
    match depth with
    | .sixteen => .indexed m.nearestOfSixteen
    | .palette => .indexed m.nearestOfPalette
    | .mixtures => .mixed m

/-- The codes of a hue as that of the text, or of the ground, whose codes are greater by ten. -/
def codes (ground : Bool) (hue : Hue) : List Nat :=
  let base := if ground then 10 else 0
  match hue with
  | .preferred => [base + 39]
  | .indexed index =>
    if index < 8 then [base + 30 + index]
    else if index < 16 then [base + 82 + index]
    else [base + 38, 5, index]
  | .mixed m => [base + 38, 2, m.red, m.green, m.blue]

end Hue

/-! ## Names -/

/-- A colour and the name by which it was asked for. -/
structure Colour where
  name : String
  hue : Hue
deriving DecidableEq, Repr

namespace Colour

/-- The names of the first eight colours; the second eight are brighter. -/
def basicNames : List String :=
  ["black", "red", "green", "yellow", "blue", "magenta", "cyan", "white"]

/-- The names of colours of the cube and of the greys. -/
def paletteNames : List (String × Nat) :=
  [("gray0", 16), ("grey0", 16), ("navy_blue", 17), ("dark_blue", 18), ("blue3", 20),
    ("blue1", 21), ("dark_green", 22), ("deep_sky_blue4", 25), ("dodger_blue3", 26),
    ("dodger_blue2", 27), ("green4", 28), ("spring_green4", 29), ("turquoise4", 30),
    ("deep_sky_blue3", 32), ("dodger_blue1", 33), ("dark_cyan", 36), ("light_sea_green", 37),
    ("deep_sky_blue2", 38), ("deep_sky_blue1", 39), ("green3", 40), ("spring_green3", 41),
    ("cyan3", 43), ("dark_turquoise", 44), ("turquoise2", 45), ("green1", 46),
    ("spring_green2", 47), ("spring_green1", 48), ("medium_spring_green", 49), ("cyan2", 50),
    ("cyan1", 51), ("purple4", 55), ("purple3", 56), ("blue_violet", 57), ("gray37", 59),
    ("grey37", 59), ("medium_purple4", 60), ("slate_blue3", 62), ("royal_blue1", 63),
    ("chartreuse4", 64), ("pale_turquoise4", 66), ("steel_blue", 67), ("steel_blue3", 68),
    ("cornflower_blue", 69), ("dark_sea_green4", 71), ("cadet_blue", 73), ("sky_blue3", 74),
    ("chartreuse3", 76), ("sea_green3", 78), ("aquamarine3", 79), ("medium_turquoise", 80),
    ("steel_blue1", 81), ("sea_green2", 83), ("sea_green1", 85), ("dark_slate_gray2", 87),
    ("dark_red", 88), ("dark_magenta", 91), ("orange4", 94), ("light_pink4", 95), ("plum4", 96),
    ("medium_purple3", 98), ("slate_blue1", 99), ("wheat4", 101), ("gray53", 102), ("grey53", 102),
    ("light_slate_gray", 103), ("light_slate_grey", 103), ("medium_purple", 104),
    ("light_slate_blue", 105), ("yellow4", 106), ("dark_sea_green", 108), ("light_sky_blue3", 110),
    ("sky_blue2", 111), ("chartreuse2", 112), ("pale_green3", 114), ("dark_slate_gray3", 116),
    ("sky_blue1", 117), ("chartreuse1", 118), ("light_green", 120), ("aquamarine1", 122),
    ("dark_slate_gray1", 123), ("deep_pink4", 125), ("medium_violet_red", 126),
    ("dark_violet", 128), ("purple", 129), ("medium_orchid3", 133), ("medium_orchid", 134),
    ("dark_goldenrod", 136), ("rosy_brown", 138), ("gray63", 139), ("grey63", 139),
    ("medium_purple2", 140), ("medium_purple1", 141), ("dark_khaki", 143), ("navajo_white3", 144),
    ("gray69", 145), ("grey69", 145), ("light_steel_blue3", 146), ("light_steel_blue", 147),
    ("dark_olive_green3", 149), ("dark_sea_green3", 150), ("light_cyan3", 152),
    ("light_sky_blue1", 153), ("green_yellow", 154), ("dark_olive_green2", 155),
    ("pale_green1", 156), ("dark_sea_green2", 157), ("pale_turquoise1", 159), ("red3", 160),
    ("deep_pink3", 162), ("magenta3", 164), ("dark_orange3", 166), ("indian_red", 167),
    ("hot_pink3", 168), ("hot_pink2", 169), ("orchid", 170), ("orange3", 172),
    ("light_salmon3", 173), ("light_pink3", 174), ("pink3", 175), ("plum3", 176), ("violet", 177),
    ("gold3", 178), ("light_goldenrod3", 179), ("tan", 180), ("misty_rose3", 181),
    ("thistle3", 182), ("plum2", 183), ("yellow3", 184), ("khaki3", 185), ("light_yellow3", 187),
    ("gray84", 188), ("grey84", 188), ("light_steel_blue1", 189), ("yellow2", 190),
    ("dark_olive_green1", 192), ("dark_sea_green1", 193), ("honeydew2", 194), ("light_cyan1", 195),
    ("red1", 196), ("deep_pink2", 197), ("deep_pink1", 199), ("magenta2", 200), ("magenta1", 201),
    ("orange_red1", 202), ("indian_red1", 204), ("hot_pink", 206), ("medium_orchid1", 207),
    ("dark_orange", 208), ("salmon1", 209), ("light_coral", 210), ("pale_violet_red1", 211),
    ("orchid2", 212), ("orchid1", 213), ("orange1", 214), ("sandy_brown", 215),
    ("light_salmon1", 216), ("light_pink1", 217), ("pink1", 218), ("plum1", 219), ("gold1", 220),
    ("light_goldenrod2", 222), ("navajo_white1", 223), ("misty_rose1", 224), ("thistle1", 225),
    ("yellow1", 226), ("light_goldenrod1", 227), ("khaki1", 228), ("wheat1", 229),
    ("cornsilk1", 230), ("gray100", 231), ("grey100", 231), ("gray3", 232), ("grey3", 232),
    ("gray7", 233), ("grey7", 233), ("gray11", 234), ("grey11", 234), ("gray15", 235),
    ("grey15", 235), ("gray19", 236), ("grey19", 236), ("gray23", 237), ("grey23", 237),
    ("gray27", 238), ("grey27", 238), ("gray30", 239), ("grey30", 239), ("gray35", 240),
    ("grey35", 240), ("gray39", 241), ("grey39", 241), ("gray42", 242), ("grey42", 242),
    ("gray46", 243), ("grey46", 243), ("gray50", 244), ("grey50", 244), ("gray54", 245),
    ("grey54", 245), ("gray58", 246), ("grey58", 246), ("gray62", 247), ("grey62", 247),
    ("gray66", 248), ("grey66", 248), ("gray70", 249), ("grey70", 249), ("gray74", 250),
    ("grey74", 250), ("gray78", 251), ("grey78", 251), ("gray82", 252), ("grey82", 252),
    ("gray85", 253), ("grey85", 253), ("gray89", 254), ("grey89", 254), ("gray93", 255),
    ("grey93", 255)]

/-- The place in the palette of a name. -/
def paletteIndex? (name : String) : Option Nat :=
  ((basicNames ++ basicNames.map ("bright_" ++ ·)).findIdx? (· == name)).or
    ((paletteNames.find? (·.1 == name)).map (·.2))

/-- The value of a digit of base sixteen, in small letters. -/
def hexDigit? (c : Char) : Option Nat :=
  if c.isDigit then some (c.toNat - 48)
  else if 'a' ≤ c && c ≤ 'f' then some (c.toNat - 87)
  else none

/-- A mixture written as six digits of base sixteen. -/
def ofHex? (cs : List Char) : Option Mixture :=
  match cs.mapM hexDigit? with
  | some [r, r', g, g', b, b'] => some ⟨16 * r + r', 16 * g + g', 16 * b + b'⟩
  | _ => none

/-- A number of decimal digits that is at most 255. -/
def share? (cs : List Char) : Option Nat :=
  if !cs.isEmpty && cs.all Char.isDigit then
    let n := cs.foldl (fun n c => 10 * n + (c.toNat - 48)) 0
    if n ≤ 255 then some n else none
  else none

/-- What stands between a word with an opening bracket and a closing bracket at the end. -/
def argument? (word : String) (cs : List Char) : Option (List Char) :=
  let opening := word.toList ++ ['(']
  if opening.isPrefixOf cs && cs.getLast? == some ')' then
    some ((cs.drop opening.length).dropLast)
  else none

/-- The fields of a text between commas. -/
def fields : List Char → List (List Char)
  | [] => [[]]
  | c :: rest =>
    if c = ',' then [] :: fields rest
    else match fields rest with
      | [] => [[c]]
      | f :: more => (c :: f) :: more

/-- A hue written with digits: of base sixteen behind a hash, a place in the palette, or three
shares. -/
def numericHue? (cs : List Char) : Option Hue :=
  match cs with
  | '#' :: digits => (ofHex? digits).map .mixed
  | _ =>
    match argument? "color" cs, argument? "rgb" cs with
    | some place, _ => if place.length ≤ 3 then (share? place).map .indexed else none
    | none, some shares =>
      match (fields shares).mapM share? with
      | some [r, g, b] => some (.mixed ⟨r, g, b⟩)
      | _ => none
    | none, none => none

/-- The colour that a word asks for. Capitals do not matter. -/
def ofWord? (word : String) : Option Colour :=
  let name := Text.lower word
  let hue := if name = "default" then some .preferred
    else ((paletteIndex? name).map Hue.indexed).or (numericHue? name.toList)
  hue.map fun hue => ⟨name, hue⟩

end Colour

end OpenApi.Terminal
