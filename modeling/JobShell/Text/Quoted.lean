import JobShell.Text.Printable

/-!
# Quoted text

The form in which diagnostics show a text: between double quotes, with the quote and the backslash
escaped, the usual short escapes for NUL, tab, line feed and carriage return, and the code point in
hexadecimal for any other character that is not printable. A single quote is left alone.
-/

namespace JobShell.Text

/-- The lower-case hexadecimal digits of `n`, at least one. -/
def hexDigits (n : Nat) : List Char := Nat.toDigits 16 n

/-- The form of one character inside quoted text. -/
def escape (c : Char) : List Char :=
  if c == '"' then ['\\', '"']
  else if c == '\\' then ['\\', '\\']
  else if c == '\x00' then ['\\', '0']
  else if c == '\t' then ['\\', 't']
  else if c == '\n' then ['\\', 'n']
  else if c == '\r' then ['\\', 'r']
  else if isPrintable c then [c]
  else ['\\', 'u', '\x7b'] ++ hexDigits c.toNat ++ ['\x7d']

/-- A text between double quotes, with each character in its escaped form. -/
def quoted (text : String) : String :=
  String.ofList ('"' :: (text.toList.flatMap escape ++ ['"']))

/-- Several quoted texts, as a bracketed list. -/
def quotedList (texts : List String) : String :=
  "[" ++ ", ".intercalate (texts.map quoted) ++ "]"

/-- A truth value in words. -/
def truth (b : Bool) : String := if b then "true" else "false"

end JobShell.Text
