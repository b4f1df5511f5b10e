import Freshness.Unicode.Class

/-!
# Quoted text

Messages quote the names and values that they mention. A quoted text stands between double quotes;
inside, a quote or a backslash follows a backslash, the usual control characters have a letter, and
every other character that cannot be seen on its own is shown by its number.
-/

namespace Freshness.Text

/-- The lower-case hexadecimal digits of a number, without leading zeros. -/
def hexadecimal (n : Nat) : List Char := Nat.toDigits 16 n

/-- Whether a character is an ASCII character other than the controls. -/
def isPlain (c : Char) : Bool := 0x20 ≤ c.toNat && c.toNat < 0x7F

/-- A character as it stands between quotes. -/
def quotedChar (c : Char) : List Char :=
  if c = '\x00' then ['\\', '0']
  else if c = '\t' then ['\\', 't']
  else if c = '\r' then ['\\', 'r']
  else if c = '\n' then ['\\', 'n']
  else if c = '"' then ['\\', '"']
  else if c = '\\' then ['\\', '\\']
  else if isPlain c then [c]
  else if Unicode.unprintable.mem c then ['\\', 'u', '\x7b'] ++ hexadecimal c.toNat ++ ['\x7d']
  else [c]

/-- The characters of a text as they stand between quotes. -/
def quotedChars (s : List Char) : List Char := s.flatMap quotedChar

/-- A text in quotes. -/
def quoted (s : String) : String :=
  "\"" ++ String.ofList (quotedChars s.toList) ++ "\""

end Freshness.Text
