import TransformPreset.Number.Literal
import TransformPreset.Text.Points
import TransformPreset.Value.Written

/-!
# Reading JSON

`Json.read` reads one JSON value with blanks around it. Beside the numbers of the standard it takes
the names `NaN`, `Infinity` and `-Infinity`; a number with a fraction or an exponent is a binary64
number and any other one an integer. Of two members of an object with one name the last counts. A
string is read into code points, for its escapes may give half of a surrogate pair; such a string,
or an object with such a name, is no text or map but a thing of another kind. Lists and objects may
lie in one another up to some number of levels. Each reader takes a bound on its steps,
which the length of the text always meets, and answers with the text that it leaves.
-/

namespace TransformPreset

namespace Json

/-- Why a text is refused. -/
inductive Fault
  /-- The text is not in JSON. -/
  | malformed
  /-- An integer has too many digits. -/
  | tooManyDigits (digits : Nat)
  /-- Lists and objects lie too deep in one another. -/
  | tooDeep
deriving DecidableEq

/-- The blanks of JSON. -/
def isSpace (c : Char) : Bool :=
  c == ' ' || c == '\t' || c == '\n' || c == '\r'

/-- The text without blanks at its start. -/
def skipSpace (text : List Char) : List Char :=
  text.dropWhile isSpace

/-- The digits of JSON. -/
def isPlainDigit (c : Char) : Bool :=
  0x30 ≤ c.toNat && c.toNat ≤ 0x39

/-- The text after a word, if it starts with that word. -/
def afterWord? (word text : List Char) : Option (List Char) :=
  if word.isPrefixOf text then some (text.drop word.length) else none

/-- The character of an escape letter. -/
def escaped? : Char → Option Char
  | '"' => some '"'
  | '\\' => some '\\'
  | '/' => some '/'
  | 'b' => some (Char.ofNat 8)
  | 'f' => some (Char.ofNat 12)
  | 'n' => some '\n'
  | 'r' => some '\r'
  | 't' => some '\t'
  | _ => none

/-- Four hexadecimal digits and the text after them. -/
def takeUnit? (text : List Char) : Option (Nat × List Char) :=
  if (text.take 4).length = 4 then (hexValue? (text.take 4)).map (·, text.drop 4) else none

/-- A code point given by one code unit or a pair of them, after the first backslash and `u`. -/
def takeEscapedPoint? (text : List Char) : Option (Nat × List Char) :=
  (takeUnit? text).map fun (high, rest) =>
    match rest with
    | '\\' :: 'u' :: more =>
      match takeUnit? more with
      -- Two code units that pair stand for one character.
      | some (low, after) =>
        if 0xD800 ≤ high && high ≤ 0xDBFF && 0xDC00 ≤ low && low ≤ 0xDFFF then
          (0x10000 + (high - 0xD800) * 0x400 + (low - 0xDC00), after)
        else (high, rest)
      | none => (high, rest)
    | _ => (high, rest)

/-- The code points of a string up to its closing quote. -/
def readString : (steps : Nat) → List Char → Except Fault (List Nat × List Char)
  | 0, _ => .error .malformed
  | steps + 1, text =>
    match text with
    | [] => .error .malformed
    | '"' :: rest => .ok ([], rest)
    | '\\' :: 'u' :: rest =>
      match takeEscapedPoint? rest with
      | none => .error .malformed
      | some (point, after) => do
        let (points, left) ← readString steps after
        return (point :: points, left)
    | '\\' :: letter :: rest =>
      match escaped? letter with
      | none => .error .malformed
      | some c => do
        let (points, left) ← readString steps rest
        return (c.toNat :: points, left)
    | c :: rest =>
      if c.toNat < 0x20 || c == '\\' then .error .malformed
      else do
        let (points, left) ← readString steps rest
        return (c.toNat :: points, left)

/-- The fraction of a number, with its point, if a digit follows the point. -/
def takeFraction : List Char → List Char × List Char
  | '.' :: rest =>
    let digits := rest.takeWhile isPlainDigit
    if digits.isEmpty then ([], '.' :: rest) else ('.' :: digits, rest.dropWhile isPlainDigit)
  | text => ([], text)

/-- The exponent of a number, with its letter, if a digit follows the letter and the sign. -/
def takeExponent : List Char → List Char × List Char
  | [] => ([], [])
  | letter :: rest =>
    if letter == 'e' || letter == 'E' then
      let (sign, body) :=
        match rest with
        | '+' :: more => (['+'], more)
        | '-' :: more => (['-'], more)
        | _ => ([], rest)
      let digits := body.takeWhile isPlainDigit
      if digits.isEmpty then ([], letter :: rest)
      else (letter :: sign ++ digits, body.dropWhile isPlainDigit)
    else ([], letter :: rest)

/-- The whole part of a number: a zero, or digits that do not start with one. -/
def takeWhole? : List Char → Option (List Char × List Char)
  | '0' :: rest => some (['0'], rest)
  | text =>
    let digits := text.takeWhile isPlainDigit
    if digits.isEmpty then none else some (digits, text.dropWhile isPlainDigit)

/-- A number. -/
def readNumber (text : List Char) : Except Fault (Value × List Char) :=
  let (sign, body) :=
    match text with
    | '-' :: rest => (['-'], rest)
    | _ => ([], text)
  match takeWhole? body with
  | none => .error .malformed
  | some (whole, afterWhole) =>
    let (fraction, afterFraction) := takeFraction afterWhole
    let (exponent, rest) := takeExponent afterFraction
    -- Only a fraction or an exponent makes a binary64 number.
    if fraction.isEmpty && exponent.isEmpty then
      match readInt (sign ++ whole) with
      | .ok n => .ok (.int n, rest)
      | .error digits => .error (.tooManyDigits digits)
    else
      match readFloat? (sign ++ whole ++ fraction ++ exponent) with
      | some x => .ok (.float x, rest)
      | none => .error .malformed

/-- The values that have a name. -/
def namedValues : List (String × Value) :=
  [("null", .null), ("true", .bool true), ("false", .bool false), ("NaN", .float .nan),
    ("Infinity", .float (.infinite false)), ("-Infinity", .float (.infinite true))]

/-- A value that has a name, and the text after it. -/
def namedValue? (text : List Char) : Option (Value × List Char) :=
  namedValues.findSome? fun (name, value) => (afterWord? name.toList text).map (value, ·)

/-- The value of a string. -/
def stringValue (points : List Nat) : Value :=
  match textOfPoints? points with
  | some text => .text text
  | none => .other (quotedPoints points)

/-- Members with their names as texts, unless one of the names is none. -/
def textMembers? : List (List Nat × Value) → Option (List (String × Value))
  | [] => some []
  | (name, value) :: rest => do
    return (← textOfPoints? name, value) :: (← textMembers? rest)

/-- Gives a name a value among members: in its place if the name is there, else at the end. -/
def putMember (name : List Nat) (value : Value) :
    List (List Nat × Value) → List (List Nat × Value)
  | [] => [(name, value)]
  | (other, old) :: rest =>
    if other = name then (name, value) :: rest else (other, old) :: putMember name value rest

/-- The value of an object: of two members with one name the last counts, at the place of the first
one. -/
def objectValue (members : List (List Nat × Value)) : Value :=
  match textMembers? members with
  | some named => .map (Entries.ofWrites named)
  | none =>
    let put := members.foldl (fun put (name, value) => putMember name value put) []
    .other (inBraces (put.map fun (name, value) => quotedPoints name ++ ": " ++ value.written))

mutual

/-- A value at the start of a text, with room for some levels. -/
def readValue : (steps : Nat) → (levels : Nat) → List Char → Except Fault (Value × List Char)
  | 0, _, _ => .error .malformed
  | steps + 1, levels, text =>
    match text with
    | '"' :: rest => do
      let (points, left) ← readString rest.length.succ rest
      return (stringValue points, left)
    | '[' :: rest =>
      if levels = 0 then .error .tooDeep
      else
        match skipSpace rest with
        | ']' :: left => .ok (.list [], left)
        | inside => do
          let (items, left) ← readItems steps (levels - 1) inside
          return (.list items, left)
    | '\x7b' :: rest =>
      if levels = 0 then .error .tooDeep
      else
        match skipSpace rest with
        | '\x7d' :: left => .ok (.map [], left)
        | inside => do
          let (members, left) ← readMembers steps (levels - 1) inside
          return (objectValue members, left)
    | _ =>
      match namedValue? text with
      | some found => .ok found
      | none => readNumber text

/-- The items of a list, up to its closing bracket. -/
def readItems : (steps : Nat) → (levels : Nat) → List Char →
    Except Fault (List Value × List Char)
  | 0, _, _ => .error .malformed
  | steps + 1, levels, text => do
    let (item, left) ← readValue steps levels text
    match skipSpace left with
    | ']' :: after => return ([item], after)
    | ',' :: after =>
      let (items, rest) ← readItems steps levels (skipSpace after)
      return (item :: items, rest)
    | _ => .error .malformed

/-- The members of an object, up to its closing brace. -/
def readMembers : (steps : Nat) → (levels : Nat) → List Char →
    Except Fault (List (List Nat × Value) × List Char)
  | 0, _, _ => .error .malformed
  | steps + 1, levels, text =>
    match text with
    | '"' :: rest => do
      let (name, afterName) ← readString rest.length.succ rest
      match skipSpace afterName with
      | ':' :: afterColon =>
        let (value, left) ← readValue steps levels (skipSpace afterColon)
        match skipSpace left with
        | ',' :: after =>
          let (members, last) ← readMembers steps levels (skipSpace after)
          return ((name, value) :: members, last)
        | '\x7d' :: after => return ([(name, value)], after)
        | _ => .error .malformed
      | _ => .error .malformed
    | _ => .error .malformed

end

/-- The value that a text writes, with room for some levels. -/
def readWithin (levels : Nat) (text : String) : Except Fault Value := do
  let body := skipSpace text.toList
  -- Each step of a value reads a character or enters a part of it, so this bound is never met.
  let (value, left) ← readValue (2 * body.length + 2) levels body
  if (skipSpace left).isEmpty then return value else .error .malformed

/-- The most levels of lists and objects in one another that are read. -/
def maxNesting : Nat := 979

/-- The value that a text writes. -/
def read (text : String) : Except Fault Value :=
  readWithin maxNesting text

end Json

end TransformPreset
