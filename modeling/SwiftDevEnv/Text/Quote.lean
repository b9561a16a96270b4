import SwiftDevEnv.Text.Printable

/-!
# Debug quoting

Error messages show an offending string in double quotes. The quote, the backslash, NUL, tab,
carriage return and line feed have short escapes (`\"`, `\\`, `\0`, `\t`, `\r`, `\n`). A
character that extends a grapheme or is not printable is written `\u` and its code point in
lowercase hexadecimal between braces. Every other character stands as it is.
-/

namespace SwiftDevEnv.Text

/-- The text of a character inside a debug-quoted string. -/
def debugEscape (c : Char) : String :=
  let n := c.toNat
  if c = '\x00' then "\\0"
  else if c = '\t' then "\\t"
  else if c = '\r' then "\\r"
  else if c = '\n' then "\\n"
  else if c = '\\' then "\\\\"
  else if c = '"' then "\\\""
  else if isGraphemeExtend c || !isPrintable c then
    "\\u" ++ "\x7b" ++ String.ofList (Nat.toDigits 16 n) ++ "\x7d"
  else String.singleton c

/-- A string in double quotes with debug escapes. -/
def debugQuote (s : String) : String :=
  "\"" ++ String.join (s.toList.map debugEscape) ++ "\""

end SwiftDevEnv.Text
