import PlanText.Text.Ranges
import PlanText.Text.UnprintableTable

/-!
Text in quotes, as messages show it. Characters that cannot be seen are written as escapes.
-/

namespace PlanText.Text

def isUnprintable (c : Char) : Bool := inRanges unprintableRanges c.toNat

def quotedChar (c : Char) : List Char :=
  if c = '"' then ['\\', '"']
  else if c = '\\' then ['\\', '\\']
  else if c = '\n' then ['\\', 'n']
  else if c = '\r' then ['\\', 'r']
  else if c = '\t' then ['\\', 't']
  else if c = '\x00' then ['\\', '0']
  else if isUnprintable c then
    '\\' :: 'u' :: '\x7b' :: Nat.toDigits 16 c.toNat ++ ['\x7d']
  else [c]

def quoted (text : String) : String :=
  String.ofList ('"' :: text.toList.flatMap quotedChar ++ ['"'])

end PlanText.Text
