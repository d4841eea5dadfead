import ClusterPanel.Text.Hidden

/- A text in quotes for diagnostics: quote, backslash and the common controls as two characters, any other
   character that would not show as itself by its code point in braces, `\u{7}`. -/
namespace ClusterPanel.Text

/-- The code point of a character in lower-case base sixteen. -/
def hexPoint (c : Char) : List Char := Nat.toDigits 16 c.toNat

/-- A character as it stands inside of quotes. -/
def quoteChar (c : Char) : List Char :=
  if c = '"' then ['\\', '"']
  else if c = '\\' then ['\\', '\\']
  else if c = '\n' then ['\\', 'n']
  else if c = '\r' then ['\\', 'r']
  else if c = '\t' then ['\\', 't']
  else if c = '\x00' then ['\\', '0']
  else if isHidden c then ['\\', 'u', '\x7b'] ++ hexPoint c ++ ['\x7d']
  else [c]

def quoted (s : String) : String := .ofList ('"' :: s.toList.flatMap quoteChar ++ ['"'])

end ClusterPanel.Text
