import TransformPreset.Value.Writable

/-!
# Writing JSON

`Json.write` gives the JSON of a value, on one line or over several, two blanks deeper for each
level. Texts are in plain characters only: all others are escaped by their UTF-16 code units.
Numbers that are not finite have the names `NaN`, `Infinity` and `-Infinity`. A value has no JSON if
it holds a thing that is no plain data, an integer with more digits than a text of one may have, or
lists and maps that lie too deep in one another; the first of these in the order of writing is the
failure.
-/

namespace TransformPreset

namespace Json

/-- The escape of one UTF-16 code unit. -/
def unitEscape (unit : Nat) : List Char :=
  '\\' :: 'u' :: hexDigits 4 unit

/-- The escape of a character by its code units. -/
def codeUnitEscape (c : Char) : List Char :=
  if c.toNat < 0x10000 then unitEscape c.toNat
  else
    let offset := c.toNat - 0x10000
    unitEscape (0xD800 + offset / 0x400) ++ unitEscape (0xDC00 + offset % 0x400)

/-- One character of a text. -/
def writeChar (c : Char) : List Char :=
  if c == '"' then ['\\', '"']
  else if c == '\\' then ['\\', '\\']
  else if c == '\n' then ['\\', 'n']
  else if c == '\r' then ['\\', 'r']
  else if c == '\t' then ['\\', 't']
  else if c.toNat == 8 then ['\\', 'b']
  else if c.toNat == 12 then ['\\', 'f']
  else if 0x20 ≤ c.toNat && c.toNat ≤ 0x7E then [c]
  else codeUnitEscape c

/-- A text. -/
def writeText (s : String) : String :=
  String.ofList ('"' :: s.toList.flatMap writeChar ++ ['"'])

/-- A binary64 number. -/
def writeFloat : Binary64 → String
  | .nan => "NaN"
  | .infinite negative => if negative then "-Infinity" else "Infinity"
  | x => x.written

/-- How JSON is laid out. -/
inductive Layout
  /-- On one line. -/
  | oneLine
  /-- Over several lines. -/
  | lines
deriving DecidableEq

/-- A line break and the blanks of a level. -/
def newLine (level : Nat) : String :=
  String.ofList ('\n' :: List.replicate (2 * level) ' ')

/-- The parts of a list or a map of a level, in brackets. -/
def enclosed (layout : Layout) (level : Nat) (opening closing : String) (parts : List String) :
    String :=
  match layout with
  | .oneLine => opening ++ ", ".intercalate parts ++ closing
  | .lines =>
    if parts.isEmpty then opening ++ closing
    else
      opening ++ newLine (level + 1) ++ ("," ++ newLine (level + 1)).intercalate parts ++
        newLine level ++ closing

mutual

/-- A value that lies in as many lists and maps as its level says. A list or map may lie in no more
than `levels`. -/
def writeAt (layout : Layout) (levels level : Nat) : Value → Except Failure String
  | .null => .ok "null"
  | .bool b => .ok (if b then "true" else "false")
  | .int n => if isTooLong n then .error .integerTooLong else .ok (writtenInt n)
  | .float x => .ok (writeFloat x)
  | .text s => .ok (writeText s)
  | .list items =>
    if levels < level then .error .nestedTooDeeply
    else (writeItems layout levels (level + 1) items).map (enclosed layout level "[" "]")
  | .map entries =>
    if levels < level then .error .nestedTooDeeply
    else (writeMembers layout levels (level + 1) entries).map (enclosed layout level "\x7b" "\x7d")
  | .other _ | .spec _ => .error .notSerializable

/-- The items of a list. -/
def writeItems (layout : Layout) (levels level : Nat) : List Value → Except Failure (List String)
  | [] => .ok []
  | item :: rest => do
    let first ← writeAt layout levels level item
    return first :: (← writeItems layout levels level rest)

/-- The members of a map. -/
def writeMembers (layout : Layout) (levels level : Nat) :
    List (String × Value) → Except Failure (List String)
  | [] => .ok []
  | (key, value) :: rest => do
    let first ← writeAt layout levels level value
    return (writeText key ++ ": " ++ first) :: (← writeMembers layout levels level rest)

end

/-- The JSON of a value. -/
def write (layout : Layout) (levels : Nat) (value : Value) : Except Failure String :=
  writeAt layout levels 0 value

mutual

/-- The value with every map of texts in the order of its keys. -/
def sortKeys : Value → Value
  | .list items => .list (sortItems items)
  | .map entries => .map (Entries.sorted (sortMembers entries))
  | value => value

/-- The items of a list with every map in the order of its keys. -/
def sortItems : List Value → List Value
  | [] => []
  | item :: rest => sortKeys item :: sortItems rest

/-- The members of a map, in their order, with every map in them in the order of its keys. -/
def sortMembers : List (String × Value) → List (String × Value)
  | [] => []
  | (key, value) :: rest => (key, sortKeys value) :: sortMembers rest

end

end Json

end TransformPreset
