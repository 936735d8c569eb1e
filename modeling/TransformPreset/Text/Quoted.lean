import TransformPreset.Text.Hex
import TransformPreset.Text.Printable

/-!
# Quoted text

The form in which a message shows a text: between quotes, with escapes. The quote is the single
one, unless the text holds a single quote and no double one. The backslash and the quote in use are
escaped by a backslash; tab, line feed and carriage return have letters; any other character that
is not printable is written by its code point in two, four or eight hexadecimal digits.
-/

namespace TransformPreset

/-- The quote that a text is put in. -/
def quoteFor (text : List Char) : Char :=
  if text.contains '\x27' && !text.contains '"' then '"' else '\x27'

/-- The escape of a character by its code point. -/
def codePointEscape (c : Char) : List Char :=
  if c.toNat < 0x100 then '\\' :: 'x' :: hexDigits 2 c.toNat
  else if c.toNat < 0x10000 then '\\' :: 'u' :: hexDigits 4 c.toNat
  else '\\' :: 'U' :: hexDigits 8 c.toNat

/-- One character inside the given quotes. -/
def quoteChar (quote c : Char) : List Char :=
  if c == quote || c == '\\' then ['\\', c]
  else if c == '\t' then ['\\', 't']
  else if c == '\n' then ['\\', 'n']
  else if c == '\r' then ['\\', 'r']
  else if isPrintable c then [c]
  else codePointEscape c

/-- The text in quotes. -/
def quoted (text : String) : String :=
  let cs := text.toList
  let quote := quoteFor cs
  String.ofList (quote :: cs.flatMap (quoteChar quote) ++ [quote])

end TransformPreset
