import Fleet.Numeral

/-! Strings inside JSON text. Writing escapes the quote, the backslash and the control
characters below the blank. Reading takes a string off the text as it stands and
decodes it in a second step, which alone refuses half a surrogate pair. -/
namespace Fleet
namespace Json

def hexDigit (n : Nat) : Char := Nat.digitChar n

def escapeChar (c : Char) : List Char :=
  match c with
  | '"' => ['\\', '"']
  | '\\' => ['\\', '\\']
  | '\x08' => ['\\', 'b']
  | '\t' => ['\\', 't']
  | '\n' => ['\\', 'n']
  | '\x0c' => ['\\', 'f']
  | '\r' => ['\\', 'r']
  | c =>
      if c.toNat < 0x20 then ['\\', 'u', '0', '0', hexDigit (c.toNat / 16), hexDigit (c.toNat % 16)]
      else [c]

def quoted (s : String) : List Char := '"' :: (s.toList.flatMap escapeChar ++ ['"'])

def hexValue? (c : Char) : Option Nat :=
  if c.isDigit then some (c.toNat - '0'.toNat)
  else if 'a' ≤ c ∧ c ≤ 'f' then some (c.toNat - 'a'.toNat + 10)
  else if 'A' ≤ c ∧ c ≤ 'F' then some (c.toNat - 'A'.toNat + 10)
  else none

def isHex (c : Char) : Bool := (hexValue? c).isSome

def letters : List (Char × Char) :=
  [('"', '"'), ('\\', '\\'), ('/', '/'), ('b', '\x08'), ('f', '\x0c'), ('n', '\n'), ('r', '\r'),
    ('t', '\t')]

def lexText : List Char → Option (List Char × List Char)
  | [] => none
  | '"' :: r => some ([], r)
  | '\\' :: 'u' :: a :: b :: c :: d :: r =>
      if isHex a && isHex b && isHex c && isHex d then
        (lexText r).map fun (raw, rest) => ('\\' :: 'u' :: a :: b :: c :: d :: raw, rest)
      else none
  | '\\' :: c :: r =>
      if (letters.lookup c).isSome then (lexText r).map fun (raw, rest) => ('\\' :: c :: raw, rest)
      else none
  | c :: r =>
      if c.toNat < 0x20 || c == '\\' then none
      else (lexText r).map fun (raw, rest) => (c :: raw, rest)

def code? (a b c d : Char) : Option Nat := do
  let a ← hexValue? a
  let b ← hexValue? b
  let c ← hexValue? c
  let d ← hexValue? d
  some (((a * 16 + b) * 16 + c) * 16 + d)

def isHighHalf (n : Nat) : Bool := 0xD800 ≤ n && n < 0xDC00

def isLowHalf (n : Nat) : Bool := 0xDC00 ≤ n && n < 0xE000

def joinHalves (high low : Nat) : Char := Char.ofNat (0x10000 + (high - 0xD800) * 0x400 + (low - 0xDC00))

def decodeText : List Char → Option (List Char)
  | [] => some []
  | '\\' :: 'u' :: a :: b :: c :: d :: '\\' :: 'u' :: e :: f :: g :: h :: r => do
      let n ← code? a b c d
      if isHighHalf n then
        let m ← code? e f g h
        if isLowHalf m then (decodeText r).map (joinHalves n m :: ·) else none
      else if isLowHalf n then none
      else (decodeText ('\\' :: 'u' :: e :: f :: g :: h :: r)).map (Char.ofNat n :: ·)
  | '\\' :: 'u' :: a :: b :: c :: d :: r => do
      let n ← code? a b c d
      if isHighHalf n || isLowHalf n then none else (decodeText r).map (Char.ofNat n :: ·)
  | '\\' :: c :: r => do
      let l ← letters.lookup c
      (decodeText r).map (l :: ·)
  | c :: r => (decodeText r).map (c :: ·)
termination_by s => s.length

end Json
end Fleet
