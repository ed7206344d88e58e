import AccountRelay.Numeral
import AccountRelay.Text.Visible

/-! # Quoted text

A message that repeats what a caller wrote puts it in quotes, so that blanks and controls show. The
rule: NUL, tab, line feed, carriage return, the backslash and the surrounding quote itself have
two-character escapes; any other character that is not visible on its own is spelled `\u` with its
code point in braces; the rest stands as it is.
-/

namespace AccountRelay.Text

/-- A character as it stands between two `quote`s. -/
def escaped (quote c : Char) : String :=
  if c = '\x00' then "\\0"
  else if c = '\t' then "\\t"
  else if c = '\r' then "\\r"
  else if c = '\n' then "\\n"
  else if c = '\\' then "\\\\"
  else if c = quote then String.ofList ['\\', quote]
  else if isVisible c then String.ofList [c]
  else "\\u\x7b" ++ Numeral.hexadecimal c.toNat ++ "\x7d"

/-- A text between double quotes. -/
def quoted (text : String) : String :=
  "\"" ++ String.join (text.toList.map (escaped '"')) ++ "\""

/-- A character between single quotes. -/
def quotedChar (c : Char) : String :=
  "'" ++ escaped '\'' c ++ "'"

end AccountRelay.Text
