import AgentReporting.Text.Classes
import AgentReporting.Text.Split

/-! # Quoted text

Messages show a text between single quotes. Double quotes are used when the text
has single quotes only, and what cannot be printed is shown by its code point.
-/

namespace AgentReporting.Text

/-- The mark that quotes `cs`. -/
def quoteMark (cs : List Char) : Char :=
  if cs.contains '\'' && !cs.contains '"' then '"' else '\''

def quotedChar (mark c : Char) : List Char :=
  if c = mark ∨ c = '\\' then ['\\', c]
  else if c = '\t' then ['\\', 't']
  else if c = '\n' then ['\\', 'n']
  else if c = '\r' then ['\\', 'r']
  else if isPrintable c then [c]
  else if c.toNat < 0x100 then '\\' :: 'x' :: paddedDigits 16 2 c.toNat
  else if c.toNat < 0x10000 then '\\' :: 'u' :: paddedDigits 16 4 c.toNat
  else '\\' :: 'U' :: paddedDigits 16 8 c.toNat

def quotedChars (cs : List Char) : List Char :=
  let mark := quoteMark cs
  mark :: cs.flatMap (quotedChar mark) ++ [mark]

/-- The text as a message quotes it. -/
def quoted (s : String) : String :=
  String.ofList (quotedChars s.toList)

end AgentReporting.Text
