import Arrange.Text.CharacterClass

/-!
# Arrange.Text.Quoted

A text between quotes, so that a reader of a message sees every character of it:

* the quote is `'`, or `"` if the text holds `'` and no `"`;
* the quote and the backslash are written after a backslash;
* line feed, carriage return and tab are `\n`, `\r` and `\t`;
* any other character without a visible form is `\x`, `\u` or `\U` and its code point in two, four
  or eight hexadecimal digits.
-/

namespace Arrange.Text

def hexDigit (n : Nat) : Char :=
  if n < 10 then Char.ofNat ('0'.toNat + n) else Char.ofNat ('a'.toNat + (n - 10))

def hexDigits : Nat → Nat → List Char
  | 0, _ => []
  | width + 1, n => hexDigit (n / Nat.pow 16 width % 16) :: hexDigits width n

/-- The quote that suits a text. -/
def quoteFor (cs : List Char) : Char :=
  if cs.contains '\'' && !cs.contains '"' then '"' else '\''

def quotedChar (quote c : Char) : List Char :=
  if c = quote ∨ c = '\\' then ['\\', c]
  else if c = '\n' then ['\\', 'n']
  else if c = '\r' then ['\\', 'r']
  else if c = '\t' then ['\\', 't']
  else if isPrintable c then [c]
  else if c.toNat < 0x100 then '\\' :: 'x' :: hexDigits 2 c.toNat
  else if c.toNat < 0x10000 then '\\' :: 'u' :: hexDigits 4 c.toNat
  else '\\' :: 'U' :: hexDigits 8 c.toNat

def quoted (s : String) : String :=
  let q := quoteFor s.toList
  String.ofList (q :: s.toList.flatMap (quotedChar q) ++ [q])

/-- Bytes between quotes, after a `b`: a byte outside printable ASCII is `\x` and two digits. -/
def quotedBytes (bytes : List UInt8) : String :=
  let cs := bytes.map fun b => Char.ofNat b.toNat
  let q := quoteFor cs
  let one (c : Char) : List Char :=
    if 0x7F ≤ c.toNat then '\\' :: 'x' :: hexDigits 2 c.toNat else quotedChar q c
  String.ofList ('b' :: q :: cs.flatMap one ++ [q])

end Arrange.Text
