import Grok.Unicode.Property

namespace Grok.Text

def hex (n : Nat) : Text := Nat.toDigits 16 n

/-- Whether a character stands for itself between quotes: it is printable and does not combine with
the character before it. -/
def isPlain (c : Char) : Bool :=
  Unicode.Property.printable.contains c && !Unicode.Property.graphemeExtend.contains c

def escape (c : Char) : Text :=
  if c = '\x00' then ['\\', '0']
  else if c = '\t' then ['\\', 't']
  else if c = '\r' then ['\\', 'r']
  else if c = '\n' then ['\\', 'n']
  else if c = '\\' then ['\\', '\\']
  else if c = '\x22' then ['\\', '\x22']
  else if isPlain c then [c]
  else ['\\', 'u', '{'] ++ hex c.toNat ++ ['}']

def quote (t : Text) : Text := '\x22' :: t.flatMap escape ++ ['\x22']

def quoteList (ts : List Text) : Text := "[" ++ join ", " (ts.map quote) ++ "]"

end Grok.Text
