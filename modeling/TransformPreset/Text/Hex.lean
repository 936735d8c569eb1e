/-!
# Hexadecimal digits

Numbers as a fixed count of hexadecimal digits, written and read.
-/

namespace TransformPreset

/-- The hexadecimal digit of a number below 16, in lower case. -/
def hexDigit (n : Nat) : Char :=
  if n < 10 then Char.ofNat (0x30 + n) else Char.ofNat (0x61 + (n - 10))

/-- The last `count` hexadecimal digits of a number, most significant first. -/
def hexDigits : (count : Nat) → Nat → List Char
  | 0, _ => []
  | count + 1, n => hexDigits count (n / 16) ++ [hexDigit (n % 16)]

/-- The value of one hexadecimal digit of either case. -/
def hexDigitValue? (c : Char) : Option Nat :=
  if 0x30 ≤ c.toNat && c.toNat ≤ 0x39 then some (c.toNat - 0x30)
  else if 0x61 ≤ c.toNat && c.toNat ≤ 0x66 then some (c.toNat - 0x61 + 10)
  else if 0x41 ≤ c.toNat && c.toNat ≤ 0x46 then some (c.toNat - 0x41 + 10)
  else none

/-- The number that follows `value` once the given hexadecimal digits are read. -/
def hexValueFrom (value : Nat) : List Char → Option Nat
  | [] => some value
  | c :: rest => (hexDigitValue? c).bind fun d => hexValueFrom (16 * value + d) rest

/-- The number that a run of hexadecimal digits writes, if each of them is one. -/
def hexValue? (digits : List Char) : Option Nat :=
  hexValueFrom 0 digits

end TransformPreset
