import TransformPreset.Failure
import TransformPreset.Number.Literal

/-!
# Values that cannot be written

A value is written in a message unless one of its integers has more digits than an integer may have
in a text, or it is nested too deeply for the place that writes it. `Value.obstacle?` finds what
hinders, in the order in which the value is written, and `Value.showing` is a failure whose message
shows a value: if the value cannot be written, that is the failure. `Writing` says what a place can
write.
-/

namespace TransformPreset

/-- Whether an integer has more digits than a text of one may have. -/
def isTooLong (n : Int) : Bool :=
  Nat.pow 10 maxDigits ≤ n.natAbs

/-- What a computation can write. The few calls between its own places are not told apart. -/
structure Writing where
  /-- The most levels of lists and maps in one another. What runs inside of more calls has fewer. -/
  levels : Nat := 979
  /-- Whether warnings are written. -/
  warns : Bool := true
deriving DecidableEq

/-- What can be written inside of one more call. -/
def Writing.inner (writing : Writing) : Writing :=
  { writing with levels := writing.levels - 1 }

namespace Value

mutual

/-- What hinders writing a value within so many levels. -/
def obstacle? (levels : Nat) : Value → Option Failure
  | .int n => if isTooLong n then some .integerTooLong else none
  | .list items => if levels = 0 then some .nestedTooDeeply else itemObstacle? (levels - 1) items
  | .map entries =>
    if levels = 0 then some .nestedTooDeeply else entryObstacle? (levels - 1) entries
  | _ => none

/-- What hinders writing the items of a list. -/
def itemObstacle? (levels : Nat) : List Value → Option Failure
  | [] => none
  | item :: rest => (obstacle? levels item).or (itemObstacle? levels rest)

/-- What hinders writing the entries of a map. -/
def entryObstacle? (levels : Nat) : List (String × Value) → Option Failure
  | [] => none
  | (_, value) :: rest => (obstacle? levels value).or (entryObstacle? levels rest)

end

/-- A failure whose message shows the value. -/
def showing (levels : Nat) (value : Value) (failure : Failure) : Failure :=
  (value.obstacle? levels).getD failure

end Value

end TransformPreset
