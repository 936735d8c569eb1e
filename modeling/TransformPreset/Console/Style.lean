import TransformPreset.Failure
import TransformPreset.Number.Literal
import TransformPreset.Text.LowerCase

/-!
# Styles

A style is a list of words: attributes, which may be shortened or denied, a colour, a colour behind
the text, and the address of a link. Two lists of words may give one style, so styles are compared
by their key: the full names of the attributes in a fixed order, the colour, the other colour, the
link. Words that give no style are a key of their own, in lower case.
-/

namespace TransformPreset

/-! ## Colours -/

/-- The colours that have a name. -/
def colourNames : List String :=
  [
    "aquamarine1", "aquamarine3", "black", "blue", "blue1", "blue3", "blue_violet", "bright_black",
    "bright_blue", "bright_cyan", "bright_green", "bright_magenta", "bright_red", "bright_white",
    "bright_yellow", "cadet_blue", "chartreuse1", "chartreuse2", "chartreuse3", "chartreuse4",
    "cornflower_blue", "cornsilk1", "cyan", "cyan1", "cyan2", "cyan3", "dark_blue", "dark_cyan",
    "dark_goldenrod", "dark_green", "dark_khaki", "dark_magenta", "dark_olive_green1",
    "dark_olive_green2", "dark_olive_green3", "dark_orange", "dark_orange3", "dark_red",
    "dark_sea_green", "dark_sea_green1", "dark_sea_green2", "dark_sea_green3", "dark_sea_green4",
    "dark_slate_gray1", "dark_slate_gray2", "dark_slate_gray3", "dark_turquoise", "dark_violet",
    "deep_pink1", "deep_pink2", "deep_pink3", "deep_pink4", "deep_sky_blue1", "deep_sky_blue2",
    "deep_sky_blue3", "deep_sky_blue4", "dodger_blue1", "dodger_blue2", "dodger_blue3", "gold1",
    "gold3", "gray0", "gray100", "gray11", "gray15", "gray19", "gray23", "gray27", "gray3",
    "gray30", "gray35", "gray37", "gray39", "gray42", "gray46", "gray50", "gray53", "gray54",
    "gray58", "gray62", "gray63", "gray66", "gray69", "gray7", "gray70", "gray74", "gray78",
    "gray82", "gray84", "gray85", "gray89", "gray93", "green", "green1", "green3", "green4",
    "green_yellow", "grey0", "grey100", "grey11", "grey15", "grey19", "grey23", "grey27", "grey3",
    "grey30", "grey35", "grey37", "grey39", "grey42", "grey46", "grey50", "grey53", "grey54",
    "grey58", "grey62", "grey63", "grey66", "grey69", "grey7", "grey70", "grey74", "grey78",
    "grey82", "grey84", "grey85", "grey89", "grey93", "honeydew2", "hot_pink", "hot_pink2",
    "hot_pink3", "indian_red", "indian_red1", "khaki1", "khaki3", "light_coral", "light_cyan1",
    "light_cyan3", "light_goldenrod1", "light_goldenrod2", "light_goldenrod3", "light_green",
    "light_pink1", "light_pink3", "light_pink4", "light_salmon1", "light_salmon3",
    "light_sea_green", "light_sky_blue1", "light_sky_blue3", "light_slate_blue", "light_slate_gray",
    "light_slate_grey", "light_steel_blue", "light_steel_blue1", "light_steel_blue3",
    "light_yellow3", "magenta", "magenta1", "magenta2", "magenta3", "medium_orchid",
    "medium_orchid1", "medium_orchid3", "medium_purple", "medium_purple1", "medium_purple2",
    "medium_purple3", "medium_purple4", "medium_spring_green", "medium_turquoise",
    "medium_violet_red", "misty_rose1", "misty_rose3", "navajo_white1", "navajo_white3",
    "navy_blue", "orange1", "orange3", "orange4", "orange_red1", "orchid", "orchid1", "orchid2",
    "pale_green1", "pale_green3", "pale_turquoise1", "pale_turquoise4", "pale_violet_red1", "pink1",
    "pink3", "plum1", "plum2", "plum3", "plum4", "purple", "purple3", "purple4", "red", "red1",
    "red3", "rosy_brown", "royal_blue1", "salmon1", "sandy_brown", "sea_green1", "sea_green2",
    "sea_green3", "sky_blue1", "sky_blue2", "sky_blue3", "slate_blue1", "slate_blue3",
    "spring_green1", "spring_green2", "spring_green3", "spring_green4", "steel_blue", "steel_blue1",
    "steel_blue3", "tan", "thistle1", "thistle3", "turquoise2", "turquoise4", "violet", "wheat1",
    "wheat4", "white", "yellow", "yellow1", "yellow2", "yellow3", "yellow4"
  ]

/-- What stands between two other texts, if a text starts and ends with them. -/
def between? (opening closing text : List Char) : Option (List Char) :=
  if opening.isPrefixOf text then
    let rest := text.drop opening.length
    if closing.isSuffixOf rest then some (rest.take (rest.length - closing.length)) else none
  else none

/-- Whether a word is a colour in hexadecimal digits. -/
def isHexColour : List Char → Bool
  | '#' :: digits =>
    digits.length == 6 && digits.all fun c => (hexDigitValue? c).isSome && !c.isUpper
  | _ => false

/-- Whether a word is the number of a colour. -/
def isNumberedColour (word : List Char) : Bool :=
  match between? "color(".toList [')'] word with
  | some digits =>
    1 ≤ digits.length && digits.length ≤ 3 && digits.all Char.isDigit && digitsValue digits ≤ 255
  | none => false

/-- The share of one light in a mixed colour. -/
def readShare (text : List Char) : Except Failure Nat :=
  if text.isEmpty then .error (.integerUnreadable "")
  else
    match readInt text with
    | .ok n => .ok n.natAbs
    | .error digits => .error (.tooManyDigits digits)

/-- The shares of several lights. -/
def readShares : List (List Char) → Except Failure (List Nat)
  | [] => .ok []
  | text :: rest => do return (← readShare text) :: (← readShares rest)

/-- Whether a word is a colour mixed of three lights. -/
def isMixedColour (word : List Char) : Except Failure Bool :=
  match between? "rgb(".toList [')'] word with
  | none => .ok false
  | some body =>
    if body.isEmpty || !body.all (fun c => isDigit c || c == ',') then .ok false
    else if (pieces ',' body).length ≠ 3 then .ok false
    else (readShares (pieces ',' body)).map fun shares => shares.all (· ≤ 255)

/-- Whether a word in lower case is a colour. -/
def isColour (word : List Char) : Except Failure Bool :=
  if (colourNames.contains (String.ofList word)) || word == "default".toList || isHexColour word ||
      isNumberedColour word then .ok true
  else isMixedColour word

/-! ## Styles -/

/-- The attributes of a style in order, each with its short name if it has one. -/
def attributeNames : List (String × Option String) :=
  [("bold", some "b"), ("dim", some "d"), ("italic", some "i"), ("underline", some "u"),
    ("blink", none), ("blink2", none), ("reverse", some "r"), ("conceal", some "c"),
    ("strike", some "s"), ("underline2", some "uu"), ("frame", none), ("encircle", none),
    ("overline", some "o")]

/-- The full name of the attribute that a word names. -/
def attributeOf? (word : List Char) : Option String :=
  (attributeNames.find? fun (full, short?) =>
    full.toList == word || short?.any fun short => short.toList == word).map Prod.fst

/-- A style. -/
structure Style where
  /-- The attributes that it asks for, and those that it denies. -/
  attributes : Entries Bool := []
  /-- The colour of the text. -/
  colour : Option (List Char) := none
  /-- The colour behind the text. -/
  background : Option (List Char) := none
  /-- The address of the link. -/
  link : Option (List Char) := none

namespace Style

/-- The words of the attributes in the key of a style. -/
def attributeWords (style : Style) : List (List Char) :=
  attributeNames.filterMap fun (full, _) =>
    (style.attributes.get? full).map fun on => (if on then full else "not " ++ full).toList

/-- The words of an optional part in the key of a style. -/
def partWords (lead : List (List Char)) : Option (List Char) → List (List Char)
  | none => []
  | some word => lead ++ [word]

/-- The key of a style. -/
def key (style : Style) : List Char :=
  let words := style.attributeWords ++ partWords [] style.colour ++
    partWords ["on".toList] style.background ++ partWords ["link".toList] style.link
  if words.isEmpty then "none".toList else [' '].intercalate words

/-- The style with what further words give, or nothing if they give none. -/
def readWords (style : Style) : List (List Char) → Except Failure (Option Style)
  | [] => .ok (some style)
  | word :: rest => do
    let name := lowerCase word
    if name == "on".toList then
      match rest with
      | [] => return none
      | colour :: more =>
        if ← isColour (lowerCase colour) then
          readWords { style with background := some (lowerCase colour) } more
        else return none
    else if name == "not".toList then
      match rest with
      | [] => return none
      | denied :: more =>
        -- What is denied counts as it is written.
        match attributeOf? denied with
        | some full =>
          readWords { style with attributes := style.attributes.insert full false } more
        | none => return none
    else if name == "link".toList then
      match rest with
      | [] => return none
      | address :: more => readWords { style with link := some address } more
    else
      match attributeOf? name with
      | some full => readWords { style with attributes := style.attributes.insert full true } rest
      | none =>
        if ← isColour name then readWords { style with colour := some name } rest else return none

end Style

/-- The key of the style that a text gives. -/
def styleKey (text : List Char) : Except Failure (List Char) :=
  let bare := trim text
  if bare == "none".toList then .ok bare
  else do
    match ← Style.readWords {} (words text) with
    | some style => return style.key
    | none => return lowerCase bare

end TransformPreset
