import Tollbooth.Text.Unprintable
/-!
# Quoted texts

Messages quote a text they complain about.  A quoted text stands between double quotes; quotes and
backslashes are escaped, the common controls have short escapes, and every other character that is
not shown as itself is written by its code.
-/

set_option autoImplicit false

namespace Tollbooth.Text

/-- How one character is written between the quotes. -/
def quoteChar (c : Char) : List Char :=
  if c = '"' then ['\\', '"']
  else if c = '\\' then ['\\', '\\']
  else if c = '\n' then ['\\', 'n']
  else if c = '\r' then ['\\', 'r']
  else if c = '\t' then ['\\', 't']
  else if c = '\x00' then ['\\', '0']
  else if isUnprintable c then
    ['\\', 'u', '\x7b'] ++ Nat.toDigits 16 c.toNat ++ ['\x7d']
  else [c]

/-- The text between double quotes. -/
def quoted (s : String) : String :=
  .ofList ('"' :: s.toList.flatMap quoteChar ++ ['"'])

end Tollbooth.Text
