import TransformPreset.Toml.Scalar

/-!
# TOML documents

Values, statements and documents of TOML. A document is read statement by statement into a table,
and every line says which part of it becomes closed: an inline table or list is `frozen`, with all
below it, and a table that a header or a dotted key has made is `explicit` and no header may open it
again. A new item of a list of tables frees what was said about the item before. Lists and inline
tables may lie in one another as long as there is room for them.
-/

namespace TransformPreset

namespace Toml

/-! ## Tables by path -/

/-- Changes the table at a path, and makes the tables on the way that are not there. A list of
tables stands for its last item if `throughLists` is set. There is no change if the path leads
through anything else. -/
def atPath (throughLists : Bool) (change : Entries Value → Option (Entries Value)) :
    List String → Entries Value → Option (Entries Value)
  | [], table => change table
  | key :: path, table =>
    match table.get? key with
    | none => (atPath throughLists change path []).map fun below => table.insert key (.map below)
    | some (.map below) =>
      (atPath throughLists change path below).map fun changed => table.insert key (.map changed)
    | some (.list items) =>
      match throughLists, items.getLast? with
      | true, some (.map last) =>
        (atPath throughLists change path last).map fun changed =>
          table.insert key (.list (items.dropLast ++ [.map changed]))
      | _, _ => none
    | some _ => none

/-- Gives a new key a value. There is no change if the key is there. -/
def addNew (key : String) (value : Value) (table : Entries Value) : Option (Entries Value) :=
  if table.has key then none else some (table.insert key value)

/-- Appends an empty table to the list of a key, which is made if it is not there. -/
def addItem (key : String) (table : Entries Value) : Option (Entries Value) :=
  match table.get? key with
  | none => some (table.insert key (.list [.map []]))
  | some (.list items) => some (table.insert key (.list (items ++ [.map []])))
  | some _ => none

/-- The path to the table that holds a key, and the key in it. -/
def splitPath (key : List String) : List String × String :=
  (key.dropLast, key.getLast?.getD "")

/-! ## Marks -/

/-- What is said of a path. -/
inductive Mark
  /-- Nothing may be added to it or below it. -/
  | frozen
  /-- No header may open it again. -/
  | explicit
deriving DecidableEq

/-- The paths with marks. A frozen path holds for all paths below it too. -/
abbrev Marks := List (List String × Mark)

namespace Marks

/-- Whether nothing may be added at a path. -/
def isFrozen (marks : Marks) (path : List String) : Bool :=
  marks.any fun (marked, mark) => mark == .frozen && marked.isPrefixOf path

/-- Whether no header may open a path. -/
def isExplicit (marks : Marks) (path : List String) : Bool :=
  marks.contains (path, .explicit)

/-- The marks without those of a path and of all paths below it. -/
def free (marks : Marks) (path : List String) : Marks :=
  marks.filter fun (marked, _) => !path.isPrefixOf marked

end Marks

/-- Whether a value is a table or a list, which is frozen once it is written in line. -/
def isContainer : Value → Bool
  | .list _ | .map _ => true
  | _ => false

/-! ## Values -/

/-- The room for lists and inline tables in one another. -/
def nestingRoom : Nat := 984

/-- The room that a list takes. -/
def listRoom : Nat := 2

/-- The room that an inline table takes. -/
def tableRoom : Nat := 3

/-- What is left of a room after some of it is taken. -/
def roomAfter (taken room : Nat) : Except Failure Nat :=
  if room < taken then .error .nestedTooDeeply else .ok (room - taken)

mutual

/-- A value. -/
def readValue : (fuel : Nat) → (room : Nat) → List Char → Except Failure (Value × List Char)
  | 0, _, _ => .error .tomlMalformed
  | fuel + 1, room, text =>
    match text with
    | '[' :: rest => do
      let roomInside ← roomAfter listRoom room
      match ← skipLines false rest with
      | ']' :: left => return (.list [], left)
      | inside =>
        let (items, left) ← readItems fuel roomInside inside
        return (.list items, left)
    | '\x7b' :: rest => do
      let roomInside ← roomAfter tableRoom room
      match skipSpace rest with
      | '\x7d' :: left => return (.map [], left)
      | inside =>
        let (table, left) ← readMembers fuel roomInside [] [] inside
        return (.map table, left)
    | _ => readScalar text

/-- The items of a list up to its bracket. -/
def readItems : (fuel : Nat) → (room : Nat) → List Char →
    Except Failure (List Value × List Char)
  | 0, _, _ => .error .tomlMalformed
  | fuel + 1, room, text => do
    let (item, after) ← readValue fuel room text
    match ← skipLines false after with
    | ']' :: left => return ([item], left)
    | ',' :: rest =>
      match ← skipLines false rest with
      | ']' :: left => return ([item], left)
      | inside =>
        let (items, left) ← readItems fuel room inside
        return (item :: items, left)
    | _ => .error .tomlMalformed

/-- A key and its value. -/
def readPair : (fuel : Nat) → (room : Nat) → List Char →
    Except Failure (List String × Value × List Char)
  | 0, _, _ => .error .tomlMalformed
  | fuel + 1, room, text => do
    let (key, after) ← readKey text.length.succ text
    match after with
    | '=' :: rest =>
      let (value, left) ← readValue fuel room (skipSpace rest)
      return (key, value, left)
    | _ => .error .tomlMalformed

/-- The members of an inline table up to its brace, given those before. -/
def readMembers : (fuel : Nat) → (room : Nat) → Marks → Entries Value → List Char →
    Except Failure (Entries Value × List Char)
  | 0, _, _, _, _ => .error .tomlMalformed
  | fuel + 1, room, marks, table, text => do
    let (key, value, after) ← readPair fuel room text
    if marks.isFrozen key then .error .tomlMalformed
    else
      let (path, last) := splitPath key
      match atPath false (addNew last value) path table with
      | none => .error .tomlMalformed
      | some next =>
        match skipSpace after with
        | '\x7d' :: left => return (next, left)
        | ',' :: rest =>
          -- A container written in line is closed for the members after it.
          let marked := if isContainer value then (key, .frozen) :: marks else marks
          readMembers fuel room marked next (skipSpace rest)
        | _ => .error .tomlMalformed

end

/-! ## Statements -/

/-- What is known of a document after some of its statements. -/
structure Progress where
  /-- The document so far. -/
  table : Entries Value := []
  /-- The marks on its paths. -/
  marks : Marks := []
  /-- The paths that become explicit with the next header. -/
  pending : List (List String) := []
  /-- The path of the last header. -/
  header : List String := []

namespace Progress

/-- The progress with its pending paths made explicit. -/
def settle (progress : Progress) : Progress :=
  { progress with
    marks := progress.pending.map (·, .explicit) ++ progress.marks
    pending := [] }

/-- The paths of the tables that a dotted key leads through, below a header. -/
def dottedPaths (header key : List String) : List (List String) :=
  (List.range (key.length - 1)).map fun i => header ++ key.take (i + 1)

/-- Takes a key and its value into the table of the last header. -/
def addPair (progress : Progress) (key : List String) (value : Value) : Option Progress :=
  let dotted := dottedPaths progress.header key
  let (path, last) := splitPath (progress.header ++ key)
  -- A dotted key opens no table that has a header of its own, and adds nothing to a closed one.
  if dotted.any progress.marks.isExplicit || progress.marks.isFrozen path then none
  else (atPath true (addNew last value) path progress.table).map fun table =>
    { progress with
      table
      marks :=
        if isContainer value then (progress.header ++ key, .frozen) :: progress.marks
        else progress.marks
      pending := progress.pending ++ dotted }

/-- Opens a table. -/
def openTable (progress : Progress) (key : List String) : Option Progress :=
  if progress.marks.isExplicit key || progress.marks.isFrozen key then none
  else (atPath true some key progress.table).map fun table =>
    { progress with table, marks := (key, .explicit) :: progress.marks, header := key }

/-- Opens a new item of a list of tables. -/
def openItem (progress : Progress) (key : List String) : Option Progress :=
  let (path, last) := splitPath key
  if progress.marks.isFrozen key then none
  else (atPath true (addItem last) path progress.table).map fun table =>
    -- The new item starts without the marks of the item before it.
    { progress with table, marks := (key, .explicit) :: progress.marks.free key, header := key }

end Progress

/-- A step that must be possible. -/
def allowed (step : Option Progress) : Except Failure Progress :=
  match step with
  | some progress => .ok progress
  | none => .error .tomlMalformed

/-- Takes a header, given the text after its first bracket, into the progress. -/
def readHeader (progress : Progress) (text : List Char) :
    Except Failure (Progress × List Char) :=
  match text with
  | '[' :: rest => do
    let (key, after) ← readKey rest.length.succ (skipSpace rest)
    let next ← allowed (progress.settle.openItem key)
    match after with
    | ']' :: ']' :: left => return (next, left)
    | _ => .error .tomlMalformed
  | _ => do
    let (key, after) ← readKey text.length.succ (skipSpace text)
    let next ← allowed (progress.settle.openTable key)
    match after with
    | ']' :: left => return (next, left)
    | _ => .error .tomlMalformed

/-- Takes one statement, given without blanks before it, into the progress. -/
def readStatement (progress : Progress) (text : List Char) :
    Except Failure (Progress × List Char) :=
  match text with
  | '#' :: _ => .ok (progress, text)
  | '[' :: rest => readHeader progress rest
  | _ => do
    let (key, value, left) ← readPair (2 * text.length + 2) nestingRoom text
    return (← allowed (progress.addPair key value), left)

/-- Reads statements, one a line, to the end of the text. -/
def readStatements : (fuel : Nat) → Progress → List Char → Except Failure (Entries Value)
  | 0, _, _ => .error .tomlMalformed
  | fuel + 1, progress, text =>
    match skipSpace text with
    | [] => .ok progress.table
    | '\n' :: rest => readStatements fuel progress rest
    | statement => do
      let (next, after) ← readStatement progress statement
      match ← skipComment (skipSpace after) with
      | [] => return next.table
      | '\n' :: rest => readStatements fuel next rest
      | _ => .error .tomlMalformed

/-- The text with every carriage return before a line break dropped. -/
def plainBreaks : List Char → List Char
  | '\r' :: '\n' :: rest => '\n' :: plainBreaks rest
  | c :: rest => c :: plainBreaks rest
  | [] => []

/-- The table that a document writes. -/
def readDocument (text : List Char) : Except Failure (Entries Value) :=
  let plain := plainBreaks text
  readStatements (plain.length + 1) {} plain

/-- The table that the bytes of a document write in UTF-8. -/
def read (bytes : ByteArray) : Except Failure (Entries Value) :=
  match String.fromUTF8? bytes with
  | none => .error .notUtf8
  | some text => readDocument text.toList

end Toml

end TransformPreset
