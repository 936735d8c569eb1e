import TransformPreset.Failure
import TransformPreset.Number.Literal
import TransformPreset.Text.Hex
import TransformPreset.Toml.Date

/-!
# TOML scalars

Comments, strings, keys, numbers and truth values of TOML, and any scalar (`readScalar`). Each
reader answers with what it read and the text after it.
-/

namespace TransformPreset

namespace Toml

/-- The blanks within a line. -/
def isSpace (c : Char) : Bool :=
  c == ' ' || c == '\t'

/-- The text without blanks at its start. -/
def skipSpace (text : List Char) : List Char :=
  text.dropWhile isSpace

/-- The control characters that neither a comment nor a string on one line may hold. -/
def isControl (c : Char) : Bool :=
  (c.toNat < 0x20 && c != '\t') || c.toNat == 0x7F

/-- The control characters that a string over several lines may not hold. -/
def isBlockControl (c : Char) : Bool :=
  isControl c && c != '\n'

/-- The text after a comment, if one starts here: the rest from the end of the line. -/
def skipComment : List Char → Except Failure (List Char)
  | '#' :: rest =>
    if (rest.takeWhile (· != '\n')).any isControl then .error .tomlMalformed
    else .ok (rest.dropWhile (· != '\n'))
  | text => .ok text

/-- The text after blanks, line breaks and comments. -/
def skipLines (inComment : Bool) : List Char → Except Failure (List Char)
  | [] => .ok []
  | c :: rest =>
    if inComment then
      if c == '\n' then skipLines false rest
      else if isControl c then .error .tomlMalformed
      else skipLines true rest
    else if isSpace c || c == '\n' then skipLines false rest
    else if c == '#' then skipLines true rest
    else .ok (c :: rest)

/-! ## Strings -/

/-- The character of a code point given by hexadecimal digits. -/
def takeCodePoint (count : Nat) (text : List Char) : Except Failure (Char × List Char) :=
  match hexValue? (text.take count) with
  | none => .error .tomlMalformed
  | some n =>
    if (text.take count).length = count ∧ n.isValidChar then .ok (Char.ofNat n, text.drop count)
    else .error .tomlMalformed

/-- The character of an escape letter. -/
def escaped? : Char → Option Char
  | 'b' => some (Char.ofNat 8)
  | 't' => some '\t'
  | 'n' => some '\n'
  | 'f' => some (Char.ofNat 12)
  | 'r' => some '\r'
  | '"' => some '"'
  | '\\' => some '\\'
  | _ => none

/-- The character of an escape, given the text after the backslash. -/
def takeEscape : List Char → Except Failure (Char × List Char)
  | 'u' :: rest => takeCodePoint 4 rest
  | 'U' :: rest => takeCodePoint 8 rest
  | c :: rest =>
    match escaped? c with
    | some d => .ok (d, rest)
    | none => .error .tomlMalformed
  | [] => .error .tomlMalformed

/-- The characters of a basic string on one line, up to its quote. -/
def readBasic : (fuel : Nat) → List Char → Except Failure (List Char × List Char)
  | 0, _ => .error .tomlMalformed
  | fuel + 1, text =>
    match text with
    | [] => .error .tomlMalformed
    | '"' :: rest => .ok ([], rest)
    | '\\' :: rest => do
      let (c, after) ← takeEscape rest
      let (cs, left) ← readBasic fuel after
      return (c :: cs, left)
    | c :: rest =>
      if isControl c then .error .tomlMalformed
      else do
        let (cs, left) ← readBasic fuel rest
        return (c :: cs, left)

/-- The text after a backslash that ends its line: all blanks and line breaks are dropped. -/
def skipFoldedLine? (text : List Char) : Option (List Char) :=
  match skipSpace text with
  -- Blanks end the text here, so the string is not closed and is refused later.
  | [] => if text.isEmpty then none else some []
  | '\n' :: rest => some (rest.dropWhile fun c => isSpace c || c == '\n')
  | _ => none

/-- The characters of a basic string over several lines, up to its three quotes. -/
def readBasicBlock : (fuel : Nat) → List Char → Except Failure (List Char × List Char)
  | 0, _ => .error .tomlMalformed
  | fuel + 1, text =>
    match text with
    | [] => .error .tomlMalformed
    | '"' :: '"' :: '"' :: rest => .ok ([], rest)
    | '\\' :: rest =>
      match skipFoldedLine? rest with
      | some after => readBasicBlock fuel after
      | none => do
        let (c, after) ← takeEscape rest
        let (cs, left) ← readBasicBlock fuel after
        return (c :: cs, left)
    | c :: rest =>
      if isBlockControl c then .error .tomlMalformed
      else do
        let (cs, left) ← readBasicBlock fuel rest
        return (c :: cs, left)

/-- The characters of a literal string on one line, up to its quote. -/
def readLiteral : List Char → Except Failure (List Char × List Char)
  | [] => .error .tomlMalformed
  | '\x27' :: rest => .ok ([], rest)
  | c :: rest =>
    if isControl c then .error .tomlMalformed
    else do
      let (cs, left) ← readLiteral rest
      return (c :: cs, left)

/-- The characters of a literal string over several lines, up to its three quotes. -/
def readLiteralBlock : List Char → Except Failure (List Char × List Char)
  | [] => .error .tomlMalformed
  | c :: rest =>
    if ['\x27', '\x27', '\x27'].isPrefixOf (c :: rest) then .ok ([], rest.drop 2)
    else if isBlockControl c then .error .tomlMalformed
    else do
      let (cs, left) ← readLiteralBlock rest
      return (c :: cs, left)

/-- A string over several lines may end in one or two quotes before the closing three. -/
def takeEndQuotes (quote : Char) : List Char × List Char → List Char × List Char
  | (cs, text) =>
    -- The quotes read as closing were the first three of up to five.
    let quotes := (text.take 2).takeWhile (· == quote)
    (cs ++ quotes, text.drop quotes.length)

/-- The text without a line break at its start. -/
def skipFirstBreak : List Char → List Char
  | '\n' :: rest => rest
  | text => text

/-- A string of any of the four forms, if one starts here. -/
def readString? : List Char → Option (Except Failure (List Char × List Char))
  | '"' :: '"' :: '"' :: rest =>
    some ((readBasicBlock rest.length.succ (skipFirstBreak rest)).map (takeEndQuotes '"'))
  | '"' :: rest => some (readBasic rest.length.succ rest)
  | '\x27' :: '\x27' :: '\x27' :: rest =>
    some ((readLiteralBlock (skipFirstBreak rest)).map (takeEndQuotes '\x27'))
  | '\x27' :: rest => some (readLiteral rest)
  | _ => none

/-! ## Keys -/

/-- The characters of a bare key. -/
def isKeyChar (c : Char) : Bool :=
  c.isAlphanum || c == '-' || c == '_'

/-- One part of a key: bare, or a string on one line. -/
def readKeyPart : List Char → Except Failure (String × List Char)
  | '"' :: rest => (readBasic rest.length.succ rest).map fun (cs, left) => (String.ofList cs, left)
  | '\x27' :: rest => (readLiteral rest).map fun (cs, left) => (String.ofList cs, left)
  | text =>
    let bare := text.takeWhile isKeyChar
    if bare.isEmpty then .error .tomlMalformed
    else .ok (String.ofList bare, text.dropWhile isKeyChar)

/-- A key: its parts, which points separate. -/
def readKey : (fuel : Nat) → List Char → Except Failure (List String × List Char)
  | 0, _ => .error .tomlMalformed
  | fuel + 1, text => do
    let (part, after) ← readKeyPart text
    match skipSpace after with
    | '.' :: rest =>
      let (parts, left) ← readKey fuel (skipSpace rest)
      return (part :: parts, left)
    | left => return ([part], left)

/-! ## Numbers -/

/-- The digits of a base. -/
def isDigitOf (base : Nat) (c : Char) : Bool :=
  (hexDigitValue? c).any (· < base)

/-- Further digits of a base, among which an underscore may stand before a digit. -/
def moreDigits (base : Nat) : List Char → List Char × List Char
  | [] => ([], [])
  | c :: rest =>
    if isDigitOf base c || (c == '_' && rest.head?.any (isDigitOf base)) then
      let (digits, left) := moreDigits base rest
      (c :: digits, left)
    else ([], c :: rest)

/-- Digits of a base, at least one. -/
def takeDigits? (base : Nat) : List Char → Option (List Char × List Char)
  | [] => none
  | c :: rest => if isDigitOf base c then some (moreDigits base (c :: rest)) else none

/-- The value of digits of a base, less their underscores. -/
def valueOfDigits (base : Nat) (digits : List Char) : Nat :=
  (digits.filter (· != '_')).foldl (fun n c => base * n + (hexDigitValue? c).getD 0) 0

/-- An integer with a base before it. -/
def readBased? : List Char → Option (Int × List Char)
  | '0' :: letter :: rest =>
    let base? := if letter == 'x' then some 16 else if letter == 'o' then some 8
      else if letter == 'b' then some 2 else none
    base?.bind fun base => (takeDigits? base rest).map fun (digits, left) =>
      ((valueOfDigits base digits : Int), left)
  | _ => none

/-- An optional sign, kept as it is. -/
def splitPlusMinus : List Char → List Char × List Char
  | '+' :: rest => (['+'], rest)
  | '-' :: rest => (['-'], rest)
  | text => ([], text)

/-- The whole part of a decimal number: a zero, or digits that do not start with one. -/
def takeWhole? : List Char → Option (List Char × List Char)
  | '0' :: rest => some (['0'], rest)
  | text => takeDigits? 10 text

/-- A mark and digits after it, if both are there. -/
def takeMarked (isMark : Char → Bool) (signs : Bool) : List Char → List Char × List Char
  | [] => ([], [])
  | c :: rest =>
    let (sign, body) := if signs then splitPlusMinus rest else ([], rest)
    match isMark c, takeDigits? 10 body with
    | true, some (digits, left) => (c :: sign ++ digits, left)
    | _, _ => ([], c :: rest)

/-- A decimal number, if one starts here: an integer, or a binary64 number if it has a fraction or
an exponent. -/
def readDecimal? (text : List Char) : Option (Except Failure (Value × List Char)) :=
  let (sign, body) := splitPlusMinus text
  (takeWhole? body).map fun (whole, afterWhole) =>
    let (fraction, afterFraction) := takeMarked (· == '.') false afterWhole
    let (exponent, left) := takeMarked (fun c => c == 'e' || c == 'E') true afterFraction
    if fraction.isEmpty && exponent.isEmpty then
      match readInt (sign ++ whole.filter (· != '_')) with
      | .ok n => .ok (.int n, left)
      | .error digits => .error (.tooManyDigits digits)
    else
      match readFloat? (sign ++ whole ++ fraction ++ exponent) with
      | some x => .ok (.float x, left)
      | none => .error .tomlMalformed

/-- The names of infinity and not-a-number, with an optional sign. -/
def readNamed? (text : List Char) : Option (Value × List Char) :=
  let (sign, body) := splitPlusMinus text
  if "inf".toList.isPrefixOf body then
    some (.float (.infinite (sign == ['-'])), body.drop 3)
  else if "nan".toList.isPrefixOf body then some (.float .nan, body.drop 3)
  else none

/-- A number. -/
def readNumber (text : List Char) : Except Failure (Value × List Char) :=
  match readBased? text with
  | some (n, left) => .ok (.int n, left)
  | none =>
    match readDecimal? text with
    | some outcome => outcome
    | none =>
      match readNamed? text with
      | some found => .ok found
      | none => .error .tomlMalformed

/-- A truth value. -/
def readBool? (text : List Char) : Option (Value × List Char) :=
  if "true".toList.isPrefixOf text then some (.bool true, text.drop 4)
  else if "false".toList.isPrefixOf text then some (.bool false, text.drop 5)
  else none

/-- A scalar. -/
def readScalar (text : List Char) : Except Failure (Value × List Char) :=
  match readString? text with
  | some outcome => outcome.map fun (cs, left) => (.text (String.ofList cs), left)
  | none =>
    match readBool? text with
    | some found => .ok found
    | none =>
      -- A date starts with digits, so numbers come after dates.
      match readDate? text with
      | some outcome => outcome
      | none => readNumber text

end Toml

end TransformPreset
