import SqlDriver.Text.Unprintable
import SqlDriver.Text.GraphemeExtend

/-!
Text in double quotes, with every character that would not show spelled out. A character is written
as itself when it has a visible form of its own and is neither the quote nor the backslash; the
usual controls have short escapes and all other characters are named by their code point.
-/

namespace SqlDriver.Text

/-- A code point in lower-case hexadecimal, in braces after `\u`. -/
def codePointEscape (c : Char) : List Char :=
  ['\\', 'u', '\x7b'] ++ Nat.toDigits 16 c.toNat ++ ['\x7d']

/-- The written form of one character inside quotes. -/
def quotedChar (c : Char) : List Char :=
  if c = '"' then ['\\', '"']
  else if c = '\\' then ['\\', '\\']
  else if c = '\n' then ['\\', 'n']
  else if c = '\r' then ['\\', 'r']
  else if c = '\t' then ['\\', 't']
  else if c = '\x00' then ['\\', '0']
  else if isUnprintable c || extendsGrapheme c then codePointEscape c
  else [c]

/-- A text in double quotes. -/
def quoted (text : String) : String :=
  String.ofList ('"' :: text.toList.flatMap quotedChar ++ ['"'])

end SqlDriver.Text
