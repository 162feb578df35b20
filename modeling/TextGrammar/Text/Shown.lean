import TextGrammar.Text.Category

/-!
Text in double quotes, written so that every character of it can be seen: characters without a
visible shape of their own are given by their code points.
-/

namespace TextGrammar.Text

def reveal (c : Char) : List Char :=
  if c = '"' then ['\\', '"']
  else if c = '\\' then ['\\', '\\']
  else if c = '\n' then ['\\', 'n']
  else if c = '\r' then ['\\', 'r']
  else if c = '\t' then ['\\', 't']
  else if c.toNat = 0 then ['\\', '0']
  else if isHidden c then '\\' :: 'u' :: '\x7b' :: (Nat.toDigits 16 c.toNat ++ ['\x7d'])
  else [c]

def shown (text : String) : String :=
  String.ofList ('"' :: (text.toList.flatMap reveal ++ ['"']))

end TextGrammar.Text
