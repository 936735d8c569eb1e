import TransformPreset.Target.Spec

/-!
# Values

What a host or a configuration file hands over before anything is known of its shape: plain data,
a target specification that has been validated already, or a thing of any other kind, such as a
date. `number?` is the number that a value is; a truth value is none, though it has a place among
numbers where two values are compared (`ordinal?`).
-/

namespace TransformPreset

/-- A value of an option, a target or a table before validation. -/
inductive Value
  /-- No value. -/
  | null
  /-- A truth value. -/
  | bool (b : Bool)
  /-- An integer. -/
  | int (n : Int)
  /-- A binary64 number. -/
  | float (x : Binary64)
  /-- A text. -/
  | text (s : String)
  /-- A list. -/
  | list (items : List Value)
  /-- A map in insertion order, with distinct keys. -/
  | map (entries : List (String × Value))
  /-- A thing of another kind, by its form in messages. It is no number, text, list or map, and
  never counts as empty. -/
  | other (form : String)
  /-- A target specification. -/
  | spec (spec : TargetSpec)

namespace Value

/-- The value of a number. -/
def ofNumber : Number → Value
  | .int n => .int n
  | .float x => .float x

/-- The number that a value is; truth values are none. -/
def number? : Value → Option Number
  | .int n => some (.int n)
  | .float x => some (.float x)
  | _ => none

/-- The number as which a value is compared: truth values count as zero and one. -/
def ordinal? : Value → Option Number
  | .bool b => some (.int (if b then 1 else 0))
  | value => value.number?

/-- The text that a value is. -/
def text? : Value → Option String
  | .text s => some s
  | _ => none

/-- The texts of a list that holds nothing else. -/
def texts? : Value → Option (List String)
  | .list items => items.mapM text?
  | _ => none

/-- Whether the value is an empty one: null, false, zero, or nothing inside. -/
def isBlankValue : Value → Bool
  | .null => true
  | .bool b => !b
  | .int n => n == 0
  | .float (.finite _ units _) => units == 0
  | .float _ => false
  | .text s => s.isEmpty
  | .list items => items.isEmpty
  | .map entries => entries.isEmpty
  | .other _ | .spec _ => false

theorem number?_ofNumber (n : Number) : (ofNumber n).number? = some n := by
  cases n <;> rfl

theorem eq_ofNumber_of_number? {value : Value} {n : Number} (h : value.number? = some n) :
    value = ofNumber n := by
  cases value <;> simp_all [number?] <;> subst h <;> rfl

end Value

end TransformPreset
