import StalestFirst.Text.Hidden

namespace StalestFirst.Text.Quoted

/-! ## Texts in messages

A text inside a message stands between quotation marks, with what does not show
written as an escape. -/

def hexadecimal (c : Char) : List Char := Nat.toDigits 16 c.toNat

def escaped (c : Char) : List Char :=
  if c = Char.ofNat 0 then ['\\', '0']
  else if c = '\t' then ['\\', 't']
  else if c = '\r' then ['\\', 'r']
  else if c = '\n' then ['\\', 'n']
  else if c = '"' then ['\\', '"']
  else if c = '\\' then ['\\', '\\']
  else if isHidden c then '\\' :: 'u' :: '\x7b' :: (hexadecimal c ++ ['\x7d'])
  else [c]

def quote (text : String) : String :=
  String.ofList ('"' :: (text.toList.flatMap escaped ++ ['"']))

end StalestFirst.Text.Quoted
