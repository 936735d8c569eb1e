import TransformPreset.Text.CharClass
import TransformPreset.Text.CharName.FromA
import TransformPreset.Text.CharName.FromB
import TransformPreset.Text.CharName.FromC
import TransformPreset.Text.CharName.FromD
import TransformPreset.Text.CharName.FromG
import TransformPreset.Text.CharName.FromJ
import TransformPreset.Text.CharName.FromM
import TransformPreset.Text.CharName.FromN
import TransformPreset.Text.CharName.FromS
import TransformPreset.Text.CharName.FromT
import TransformPreset.Text.Hex

/-!
# Names of characters

Characters have names in capital letters. Most names stand in tables, in order and packed: small
letters before a name add up to the number of characters that it shares with the name before it, and
only the others are written. The names of ideographs and of syllables are made by rules instead.
-/

namespace TransformPreset

/-! ## Packed names -/

/-- The number that a small letter stands for. -/
def sharedBy (letter : Char) : Nat :=
  letter.toNat - 0x61

/-- Whether packed names hold a name. The last of their names so far has the given length, and
agrees with the looked-for one up to a place. -/
def holdsNameFrom (name : List Char) (length agreed : Nat) (isWritten : Bool) : List Char → Bool
  | [] => agreed == length && length == name.length
  | c :: rest =>
    if c.isLower && isWritten then
      (agreed == length && length == name.length) ||
        holdsNameFrom name (sharedBy c) agreed false rest
    else if c.isLower then holdsNameFrom name (length + sharedBy c) agreed false rest
    else
      let kept := min agreed length
      let goesOn := kept == length && name[length]? == some c
      holdsNameFrom name (length + 1) (if goesOn then kept + 1 else kept) true rest

/-- Whether packed names hold a name. -/
def holdsName (table : List String) (name : List Char) : Bool :=
  holdsNameFrom name 0 0 false (table.flatMap String.toList)

/-- The tables of packed names. -/
def charNameTables : List (List String) :=
  [charNamesFromA, charNamesFromB, charNamesFromC, charNamesFromD, charNamesFromG, charNamesFromJ,
    charNamesFromM, charNamesFromN, charNamesFromS, charNamesFromT]

/-! ## Names made by rules -/

/-- The text after an opening that it may start with. -/
def afterOpening? (opening : String) (text : List Char) : Option (List Char) :=
  if opening.toList.isPrefixOf text then some (text.drop opening.length) else none

/-- The code points of the ideographs that are named by rule. -/
def ideographs : CharClass :=
  [(0x3400, 0x4DBF), (0x4E00, 0x9FFF), (0x20000, 0x2A6DF), (0x2A700, 0x2B738), (0x2B740, 0x2B81D),
    (0x2B820, 0x2CEA1), (0x2CEB0, 0x2EBE0), (0x30000, 0x3134A)]

/-- Whether digits in capital letters are the code point of an ideograph. -/
def isIdeographNumber (digits : List Char) : Bool :=
  (digits.length == 4 || digits.length == 5) && digits.all (fun c => !c.isLower) &&
    (hexValue? digits).any fun value =>
      ideographs.any fun range => range.1 ≤ value && value ≤ range.2

/-- The parts at the start of a syllable. -/
def syllableStarts : List String :=
  ["G", "GG", "N", "D", "DD", "R", "M", "B", "BB", "S", "SS", "", "J", "JJ", "C", "K", "T", "P",
    "H"]

/-- The parts in the middle of a syllable. -/
def syllableMiddles : List String :=
  ["A", "AE", "YA", "YAE", "EO", "E", "YEO", "YE", "O", "WA", "WAE", "OE", "YO", "U", "WEO", "WE",
    "WI", "YU", "EU", "YI", "I"]

/-- The parts at the end of a syllable. -/
def syllableEnds : List String :=
  ["", "G", "GG", "GS", "N", "NJ", "NH", "D", "L", "LG", "LM", "LB", "LS", "LT", "LP", "LH", "M",
    "B", "BS", "S", "SS", "NG", "J", "C", "K", "T", "P", "H"]

/-- The text after the longest of some parts that it starts with. -/
def afterPart? (parts : List String) (text : List Char) : Option (List Char) :=
  let fitting := parts.filter fun part => part.toList.isPrefixOf text
  (fitting.map String.length).max?.map text.drop

/-- Whether letters are a syllable. -/
def isSyllable (letters : List Char) : Bool :=
  (((afterPart? syllableStarts letters).bind (afterPart? syllableMiddles)).bind
    (afterPart? syllableEnds)) == some []

/-! ## Names -/

/-- Whether a text is the name of a character. Only the names in the tables may be written in small
letters. -/
def isCharName (name : List Char) : Bool :=
  match afterOpening? "CJK UNIFIED IDEOGRAPH-" name, afterOpening? "HANGUL SYLLABLE " name with
  | some digits, _ => isIdeographNumber digits
  | none, some letters => isSyllable letters
  | none, none => charNameTables.any fun table => holdsName table (name.map Char.toUpper)

end TransformPreset
