import PathStore.Text.Invisible

/-!
# Quoted text

Text between double quotes, in which quotes, backslashes and characters that do not show by
themselves are escaped.
-/

namespace PathStore.Quoted

/-- The hexadecimal number of a character between braces. -/
def numbered (char : Char) : List Char :=
  "\\u\x7b".toList ++ Nat.toDigits 16 char.toNat ++ ['\x7d']

/-- How a character is written inside quotes. -/
def escape (char : Char) : List Char :=
  if char = '"' then ['\\', '"']
  else if char = '\\' then ['\\', '\\']
  else if char = '\n' then ['\\', 'n']
  else if char = '\r' then ['\\', 'r']
  else if char = '\t' then ['\\', 't']
  else if char.toNat = 0 then ['\\', '0']
  else if Invisible.holds char then numbered char
  else [char]

/-- A text between quotes. -/
def write (text : String) : String :=
  "\"" ++ String.ofList (text.toList.flatMap escape) ++ "\""

example : write "a\"\x01" = "\"a\\\"\\u\x7b1\x7d\"" := by decide +kernel

/-- A voicing mark shows by itself; a filler and a code point without a character do not. -/
example : write "\uff9e\u3164\uffff" = "\"\uff9e\\u\x7b3164\x7d\\u\x7bffff\x7d\"" := by
  decide +kernel

end PathStore.Quoted
