import Fleet.Text.Legible

/-! A text as an error message shows it: between quotes, with the characters that a reader
could not see spelled out by their code points. -/
namespace Fleet
namespace Text

def spelledOut (c : Char) : List Char :=
  match c with
  | '\x00' => ['\\', '0']
  | '\t' => ['\\', 't']
  | '\r' => ['\\', 'r']
  | '\n' => ['\\', 'n']
  | '\\' => ['\\', '\\']
  | '"' => ['\\', '"']
  | c =>
      if isLegible c then [c]
      else '\\' :: 'u' :: '\x7b' :: (Nat.toDigits 16 c.toNat ++ ['\x7d'])

def quoted (s : String) : String := String.ofList ('"' :: (s.toList.flatMap spelledOut ++ ['"']))

end Text
end Fleet
