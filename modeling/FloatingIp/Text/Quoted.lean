import FloatingIp.Digits
import FloatingIp.Text.Visible

/-!
# Quoted text

Texts from outside are quoted where a message shows them, so that nothing in them can be taken
for the message.  Double quotes and backslashes are escaped, the common controls have a letter,
and what would not show, or would be drawn onto its neighbour, is written as its code point.
-/

namespace FloatingIp.Text

/-- One character inside quotes. -/
def quoteChar (c : Char) : List Char :=
  if c = '"' then ['\\', '"']
  else if c = '\\' then ['\\', '\\']
  else if c = '\n' then ['\\', 'n']
  else if c = '\r' then ['\\', 'r']
  else if c = '\t' then ['\\', 't']
  else if c.toNat = 0 then ['\\', '0']
  else if shows c && !isExtending c then [c]
  else ['\\', 'u', '\x7b'] ++ Digits.text 16 c.toNat ++ ['\x7d']

/-- A text in double quotes. -/
def quoted (s : String) : String :=
  String.ofList ('"' :: s.toList.flatMap quoteChar ++ ['"'])

end FloatingIp.Text
