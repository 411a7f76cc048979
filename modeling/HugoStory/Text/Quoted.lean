import HugoStory.Text.Hexadecimal
import HugoStory.Text.Unprintable
/-! Text in quotes, as an error message quotes what it was given. Quotes and backslashes are
escaped, and characters that would not show are written as their code points. -/
namespace HugoStory.Text.Quoted

def codePoint (c : Char) : List Char :=
  '\\' :: 'u' :: '\x7b' :: (Hexadecimal.digits 1 c.toNat ++ ['\x7d'])

def escaped (c : Char) : List Char :=
  if c = '"' then ['\\', '"']
  else if c = '\\' then ['\\', '\\']
  else if c = '\n' then ['\\', 'n']
  else if c = '\r' then ['\\', 'r']
  else if c = '\t' then ['\\', 't']
  else if c.toNat = 0 then ['\\', '0']
  else if Unprintable.isUnprintable c then codePoint c
  else [c]

def render (text : String) : String :=
  String.ofList ('"' :: text.toList.flatMap escaped ++ ['"'])

end HugoStory.Text.Quoted
