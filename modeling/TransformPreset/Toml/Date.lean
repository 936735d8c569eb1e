import TransformPreset.Failure
import TransformPreset.Text.Digit
import TransformPreset.Value.Basic

/-!
# TOML dates and times

A date, a time of day, or both with an optional offset. Nothing reckons with them, so what is kept
of one is its form in messages. The fields have fixed widths and ranges; a day that its month does
not have, or the year zero, is an error.
-/

namespace TransformPreset

namespace Toml

/-- A day of the calendar. -/
structure Day where
  /-- The year. -/
  year : Nat
  /-- The month, from 1. -/
  month : Nat
  /-- The day of the month, from 1. -/
  day : Nat

/-- A time of day. -/
structure Clock where
  /-- The hour. -/
  hour : Nat
  /-- The minute. -/
  minute : Nat
  /-- The second. -/
  second : Nat
  /-- The millionths of a second. -/
  micros : Nat

/-- The days of a month. -/
def daysOfMonth (year month : Nat) : Nat :=
  if month = 2 then
    if year % 4 = 0 ∧ (year % 100 ≠ 0 ∨ year % 400 = 0) then 29 else 28
  else if month ∈ [4, 6, 9, 11] then 30
  else 31

/-- Whether the calendar has a day. Months and days are in their ranges as they are read. -/
def Day.exists (day : Day) : Bool :=
  1 ≤ day.year && day.day ≤ daysOfMonth day.year day.month

/-! ## Reading -/

/-- A number of exactly `count` digits in a range. -/
def takeField? (count least most : Nat) (text : List Char) : Option (Nat × List Char) :=
  let digits := text.take count
  let n := digitsValue digits
  if digits.length = count ∧ digits.all Char.isDigit ∧ least ≤ n ∧ n ≤ most then
    some (n, text.drop count)
  else none

/-- The text after a mark, if one starts it. -/
def takeMark? (isMark : Char → Bool) : List Char → Option (List Char)
  | [] => none
  | c :: rest => if isMark c then some rest else none

/-- A day. -/
def takeDay? (text : List Char) : Option (Day × List Char) := do
  let (year, text) ← takeField? 4 0 9999 text
  let text ← takeMark? (· == '-') text
  let (month, text) ← takeField? 2 1 12 text
  let text ← takeMark? (· == '-') text
  let (day, text) ← takeField? 2 1 31 text
  return (⟨year, month, day⟩, text)

/-- The millionths of a second after a point, of which further digits are dropped. -/
def takeMicros (text : List Char) : Nat × List Char :=
  match takeMark? (· == '.') text with
  | none => (0, text)
  | some rest =>
    let digits := rest.takeWhile Char.isDigit
    if digits.isEmpty then (0, text)
    else (digitsValue ((digits.take 6).rightpad 6 '0'), rest.dropWhile Char.isDigit)

/-- A time of day. -/
def takeClock? (text : List Char) : Option (Clock × List Char) := do
  let (hour, text) ← takeField? 2 0 23 text
  let text ← takeMark? (· == ':') text
  let (minute, text) ← takeField? 2 0 59 text
  let text ← takeMark? (· == ':') text
  let (second, text) ← takeField? 2 0 59 text
  let (micros, text) := takeMicros text
  return (⟨hour, minute, second, micros⟩, text)

/-- An offset in minutes after its sign. -/
def takeOffset? (text : List Char) : Option (Nat × List Char) := do
  let (hours, text) ← takeField? 2 0 23 text
  let text ← takeMark? (· == ':') text
  let (minutes, text) ← takeField? 2 0 59 text
  return (60 * hours + minutes, text)

/-- The offset of a zone in minutes, if one is given. -/
def takeZone (text : List Char) : Option Int × List Char :=
  match text with
  | 'Z' :: rest | 'z' :: rest => (some 0, rest)
  | '+' :: rest =>
    match takeOffset? rest with
    | some (minutes, left) => (some minutes, left)
    | none => (none, text)
  | '-' :: rest =>
    match takeOffset? rest with
    | some (minutes, left) => (some (-minutes), left)
    | none => (none, text)
  | _ => (none, text)

/-! ## Forms -/

/-- The form of a thing made of numbers, with further parts after them. -/
def calledForm (name : String) (numbers : List Nat) (more : List String) : String :=
  "datetime." ++ name ++ "(" ++ ", ".intercalate (numbers.map toString ++ more) ++ ")"

/-- The numbers of the second and its millionths, less zeros at their end. -/
def Clock.fine (clock : Clock) : List Nat :=
  if clock.micros ≠ 0 then [clock.second, clock.micros]
  else if clock.second ≠ 0 then [clock.second]
  else []

/-- The form of the zone with an offset in minutes. -/
def zoneForm (minutes : Int) : String :=
  if minutes = 0 then "datetime.timezone.utc"
  else
    -- Seconds count up from the start of a day, which is the day before if the offset is negative.
    let day := if minutes < 0 then "days=-1, " else ""
    "datetime.timezone(datetime.timedelta(" ++ day ++
      "seconds=" ++ toString ((60 * minutes) % 86400) ++ "))"

/-- The form of a day. -/
def Day.form (day : Day) : String :=
  calledForm "date" [day.year, day.month, day.day] []

/-- The form of a time of day. -/
def Clock.form (clock : Clock) : String :=
  calledForm "time" ([clock.hour, clock.minute] ++ clock.fine) []

/-- The form of a day with a time and perhaps a zone. -/
def momentForm (day : Day) (clock : Clock) (zone : Option Int) : String :=
  calledForm "datetime"
    ([day.year, day.month, day.day, clock.hour, clock.minute] ++ clock.fine)
    (zone.toList.map fun minutes => "tzinfo=" ++ zoneForm minutes)

/-- A day, with a time if one follows. -/
def readMoment? (text : List Char) : Option (Except Failure (Value × List Char)) :=
  (takeDay? text).map fun (day, afterDay) =>
    if !day.exists then .error .tomlMalformed
    else
      match (takeMark? (fun c => c == 'T' || c == 't' || c == ' ') afterDay).bind takeClock? with
      | some (clock, afterClock) =>
        let (zone, left) := takeZone afterClock
        .ok (.other (momentForm day clock zone), left)
      | none => .ok (.other day.form, afterDay)

/-- A date or a time, if one starts here. -/
def readDate? (text : List Char) : Option (Except Failure (Value × List Char)) :=
  (readMoment? text).or
    ((takeClock? text).map fun (clock, left) => .ok (.other clock.form, left))

end Toml

end TransformPreset
