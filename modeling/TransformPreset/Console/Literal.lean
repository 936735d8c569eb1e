import TransformPreset.Console.Literal.Token

/-!
# Literals

A literal is an expression that is a value as it stands: a number with or without a sign, the sum or
the difference of a number and an imaginary one, strings one after the other, a constant, or values
in brackets. In braces, items and keys must have a value that can be looked up, which a set or a
table is not. Reading goes down in steps, of which there may only be so many, so that a value can be
nested too deeply. `isLiteral` says whether a text is a literal.
-/

namespace TransformPreset

namespace Literal

/-- What matters of the value of an expression for the expression around it. -/
inductive Shape
  /-- A number, which may be imaginary, without a sign. -/
  | number (imaginary : Bool)
  /-- A number with a sign. -/
  | signed (imaginary : Bool)
  /-- The function that makes sets, which is no value itself. -/
  | setMaker
  /-- Any other value, which may be one that can be looked up. -/
  | other (lookedUp : Bool)
deriving DecidableEq

/-- Whether a value can be looked up. -/
def Shape.isKey : Shape → Bool
  | .other lookedUp => lookedUp
  | _ => true

/-- The tokens after strings of one kind. -/
def afterStrings (bytes : Bool) : List Token → List Token
  | [] => []
  | token :: rest => if token = .string bytes then afterStrings bytes rest else token :: rest

/-- The shape of a value with a sign before it, if it may have one. -/
def withSign? : Shape → Option Shape
  | .number imaginary => some (.signed imaginary)
  | _ => none

/-- The shape of the sum or difference of two values, if it is a literal. -/
def sum? : Shape → Shape → Option Shape
  | .number false, .number true | .signed false, .number true => some (.other true)
  | _, _ => none

/-! ## Steps -/

/-- The most steps that reading may go down. -/
def maxSteps : Nat := 6000

/-- The steps from an expression to the value that it starts with. -/
def stepsToValue : Nat := 22

/-- Whether an expression can be looked for after some steps, even if there is none. -/
def canLook (steps : Nat) : Bool :=
  steps + stepsToValue ≤ maxSteps

/-- The steps from a value in parentheses to its first item. -/
def stepsToFirst : Nat := 6

/-- The steps from a value in parentheses to its second item. -/
def stepsToSecond : Nat := 8

/-- The steps from a value in parentheses to its later items. -/
def stepsToLater : Nat := 9

/-- The steps from a value in braces to its first item or entry. -/
def stepsToEntry : Nat := 7

/-- The steps from a value in braces to its later items or entries. -/
def stepsToLaterEntry : Nat := 8

/-- The steps from a function that is called to its arguments. -/
def stepsToArguments : Nat := 2

/-- The steps from a string to its parts. -/
def stepsToParts : Nat := 2

/-! ## Expressions -/

mutual

/-- A value without a sign, which is not called, after some steps. -/
def readAtom? : (fuel steps : Nat) → List Token → Option (Shape × List Token)
  | 0, _, _ => none
  | fuel + 1, steps, tokens =>
    match tokens with
    | .number imaginary :: rest => some (.number imaginary, rest)
    | .string bytes :: rest =>
      if steps + stepsToParts ≤ maxSteps then some (.other true, afterStrings bytes rest) else none
    | .constant :: rest => some (.other true, rest)
    | .setName :: rest => some (.setMaker, rest)
    | .sign '(' :: .sign ')' :: rest =>
      if canLook (steps + stepsToFirst) then some (.other true, rest) else none
    | .sign '(' :: rest => do
      let (first, left) ← readSum? fuel (steps + stepsToFirst) rest
      match left with
      | .sign ')' :: after => some (first, after)
      | .sign ',' :: _ =>
        if first = .setMaker then none
        else do
          let (isKey, after) ←
            readItems? fuel (steps + stepsToSecond) (steps + stepsToLater) ')' first.isKey left
          some (.other isKey, after)
      | _ => none
    | .sign '\x7b' :: .sign '\x7d' :: rest =>
      if canLook (steps + stepsToEntry) then some (.other false, rest) else none
    | .sign '\x7b' :: rest => do
      let (first, left) ← readItem? fuel (steps + stepsToEntry) rest
      let later := steps + stepsToLaterEntry
      let (isKey, after) ←
        match left with
        | .sign ':' :: more => do
          let (_, behind) ← readItem? fuel (steps + stepsToEntry) more
          readEntries? fuel later first.isKey behind
        | _ => readItems? fuel later later '\x7d' first.isKey left
      if isKey then some (.other false, after) else none
    | _ => none

/-- A value without a sign, after some steps. -/
def readPlain? : (fuel steps : Nat) → List Token → Option (Shape × List Token)
  | 0, _, _ => none
  | fuel + 1, steps, tokens => do
    let (shape, rest) ← readAtom? fuel steps tokens
    match rest with
    | .sign '(' :: .sign ')' :: after =>
      if shape = .setMaker && canLook (steps + stepsToArguments) then some (.other false, after)
      else none
    | _ => some (shape, rest)

/-- A value with or without a sign, or the sum or difference of two, after some steps. -/
def readSum? : (fuel steps : Nat) → List Token → Option (Shape × List Token)
  | 0, _, _ => none
  | fuel + 1, steps, tokens =>
    if !canLook steps then none
    else do
      let bare := steps + stepsToValue
      let (left, rest) ←
        match tokens with
        | .sign '+' :: more | .sign '-' :: more =>
          if bare < maxSteps then do
            let (shape, after) ← readPlain? fuel (bare + 1) more
            some (← withSign? shape, after)
          else none
        | _ => readPlain? fuel bare tokens
      match rest with
      | .sign '+' :: more | .sign '-' :: more =>
        let (right, after) ← readPlain? fuel bare more
        some (← sum? left right, after)
      | _ => some (left, rest)

/-- A value as an item, after some steps. -/
def readItem? : (fuel steps : Nat) → List Token → Option (Shape × List Token)
  | 0, _, _ => none
  | fuel + 1, steps, tokens => do
    let (shape, rest) ← readSum? fuel steps tokens
    if shape = .setMaker then none else some (shape, rest)

/-- The items after the first one, up to a closing bracket, of which the next one and the later ones
come after some steps: whether all can be looked up, if those before can. -/
def readItems? : (fuel next later : Nat) → (closing : Char) → Bool → List Token →
    Option (Bool × List Token)
  | 0, _, _, _, _, _ => none
  | fuel + 1, next, later, closing, areKeys, tokens =>
    match tokens with
    | .sign ',' :: rest =>
      if rest.head? = some (.sign closing) then
        if canLook next then some (areKeys, rest.tail) else none
      else do
        let (item, left) ← readItem? fuel next rest
        readItems? fuel later later closing (areKeys && item.isKey) left
    | token :: rest => if token = .sign closing then some (areKeys, rest) else none
    | [] => none

/-- The entries after the first one, up to a closing brace, each of which comes after some steps:
whether all keys can be looked up, if those before can. -/
def readEntries? : (fuel steps : Nat) → Bool → List Token → Option (Bool × List Token)
  | 0, _, _, _ => none
  | fuel + 1, steps, areKeys, tokens =>
    match tokens with
    | .sign '\x7d' :: rest => some (areKeys, rest)
    | .sign ',' :: .sign '\x7d' :: rest => if canLook steps then some (areKeys, rest) else none
    | .sign ',' :: rest => do
      let (key, left) ← readItem? fuel steps rest
      match left with
      | .sign ':' :: more =>
        let (_, behind) ← readItem? fuel steps more
        readEntries? fuel steps (areKeys && key.isKey) behind
      | _ => none
    | _ => none

end

/-- The steps to the first value of a text. -/
def stepsToText : Nat := 3

/-- The steps to the later values of a text. -/
def stepsToLaterText : Nat := 5

/-- Whether values with commas between them, and perhaps one at their end, are all that is left, the
first of them after some steps. -/
def areValues : (fuel steps : Nat) → List Token → Bool
  | 0, _, _ => false
  | fuel + 1, steps, tokens =>
    match readItem? fuel steps tokens with
    | some (_, []) | some (_, [.sign ',']) => true
    | some (_, .sign ',' :: rest) => areValues fuel stepsToLaterText rest
    | _ => false

end Literal

/-- Whether a text is a literal. -/
def isLiteral (text : List Char) : Bool :=
  match Literal.tokens? text with
  | none => false
  -- At most five readers in turn take no token.
  | some tokens => Literal.areValues (5 * tokens.length + 5) Literal.stepsToText tokens

end TransformPreset
