import Fleet.Json.Escape

/-! Strings of the settings format in their four forms: basic and literal, each on one line
or on several. Writing takes the first form that needs no escapes, and escapes where
none does without. -/
namespace Fleet
namespace Toml

def isControl (c : Char) : Bool := (c.toNat < 0x20 && c != '\t') || c.toNat == 0x7F

def letters : List (Char × Char) :=
  [('b', '\x08'), ('t', '\t'), ('n', '\n'), ('f', '\x0c'), ('r', '\r'), ('"', '"'), ('\\', '\\')]

def named? (digits : List Char) : Option Char := do
  let values ← digits.mapM Json.hexValue?
  let n := values.foldl (fun n d => n * 16 + d) 0
  if n.isValidChar then some (Char.ofNat n) else none

def basicBody : List Char → Option (List Char × List Char)
  | [] => none
  | '"' :: r => some ([], r)
  | '\\' :: 'u' :: a :: b :: c :: d :: r => do
      let x ← named? [a, b, c, d]
      (basicBody r).map fun (t, rest) => (x :: t, rest)
  | '\\' :: 'U' :: a :: b :: c :: d :: e :: f :: g :: h :: r => do
      let x ← named? [a, b, c, d, e, f, g, h]
      (basicBody r).map fun (t, rest) => (x :: t, rest)
  | '\\' :: c :: r => do
      let x ← letters.lookup c
      (basicBody r).map fun (t, rest) => (x :: t, rest)
  | c :: r =>
      if isControl c || c == '\\' then none
      else (basicBody r).map fun (t, rest) => (c :: t, rest)

def literalBody : List Char → Option (List Char × List Char)
  | [] => none
  | '\'' :: r => some ([], r)
  | c :: r => if isControl c then none else (literalBody r).map fun (t, rest) => (c :: t, rest)

def closing? (quote : Char) (s : List Char) : Option (List Char × List Char) :=
  let run := (s.takeWhile (· == quote)).length
  if run < 3 then none
  else
    let extra := min (run - 3) 2
    some (List.replicate extra quote, s.drop (extra + 3))

def endsLine (s : List Char) : Bool :=
  match s.dropWhile fun c => c == ' ' || c == '\t' with
  | '\n' :: _ => true
  | '\r' :: '\n' :: _ => true
  | _ => false

/-- A backslash at the end of a line joins the lines: `joining` passes over blanks and ends
of lines until something else comes. -/
def basicLines (joining : Bool) : List Char → Option (List Char × List Char)
  | [] => none
  | '"' :: r =>
      match closing? '"' ('"' :: r) with
      | some found => some found
      | none => (basicLines false r).map fun (t, rest) => ('"' :: t, rest)
  | '\\' :: 'u' :: a :: b :: c :: d :: r => do
      let x ← named? [a, b, c, d]
      (basicLines false r).map fun (t, rest) => (x :: t, rest)
  | '\\' :: 'U' :: a :: b :: c :: d :: e :: f :: g :: h :: r => do
      let x ← named? [a, b, c, d, e, f, g, h]
      (basicLines false r).map fun (t, rest) => (x :: t, rest)
  | '\\' :: c :: r =>
      match letters.lookup c with
      | some x => (basicLines false r).map fun (t, rest) => (x :: t, rest)
      | none => if endsLine (c :: r) then basicLines true (c :: r) else none
  | '\r' :: '\n' :: r =>
      if joining then basicLines true r
      else (basicLines false r).map fun (t, rest) => ('\n' :: t, rest)
  | c :: r =>
      if joining && (c == ' ' || c == '\t' || c == '\n') then basicLines true r
      else if (isControl c && c != '\n') || c == '\\' then none
      else (basicLines false r).map fun (t, rest) => (c :: t, rest)

def literalLines : List Char → Option (List Char × List Char)
  | [] => none
  | '\'' :: r =>
      match closing? '\'' ('\'' :: r) with
      | some found => some found
      | none => (literalLines r).map fun (t, rest) => ('\'' :: t, rest)
  | '\r' :: '\n' :: r => (literalLines r).map fun (t, rest) => ('\n' :: t, rest)
  | c :: r =>
      if isControl c && c != '\n' then none
      else (literalLines r).map fun (t, rest) => (c :: t, rest)

def pastNewline : List Char → List Char
  | '\n' :: r => r
  | '\r' :: '\n' :: r => r
  | r => r

def readText : List Char → Option (String × List Char)
  | '"' :: '"' :: '"' :: r =>
      (basicLines false (pastNewline r)).map fun (t, rest) => (String.ofList t, rest)
  | '"' :: r => (basicBody r).map fun (t, rest) => (String.ofList t, rest)
  | '\'' :: '\'' :: '\'' :: r =>
      (literalLines (pastNewline r)).map fun (t, rest) => (String.ofList t, rest)
  | '\'' :: r => (literalBody r).map fun (t, rest) => (String.ofList t, rest)
  | _ => none

inductive Form where
  | basic
  | literal
  | basicLines
  | literalLines
  deriving DecidableEq, Repr

def hasTriple (quote : Char) : List Char → Bool
  | a :: b :: c :: r => (a == quote && b == quote && c == quote) || hasTriple quote (b :: c :: r)
  | _ => false

def hasControl (s : List Char) : Bool := s.any fun c => isControl c && c != '\n'

def formOf (s : List Char) : Form :=
  let lines := s.contains '\n'
  let control := hasControl s
  if !s.contains '"' && !s.contains '\\' && !lines && !control then .basic
  else if !s.contains '\'' && !lines && !control then .literal
  else if !s.contains '\\' && !control && !hasTriple '"' s then .basicLines
  else if !control && !hasTriple '\'' s then .literalLines
  else if lines then .basicLines
  else .basic

def escapeControl (c : Char) : List Char :=
  match c with
  | '\x08' => ['\\', 'b']
  | '\t' => ['\\', 't']
  | '\n' => ['\\', 'n']
  | '\x0c' => ['\\', 'f']
  | '\r' => ['\\', 'r']
  | '\\' => ['\\', '\\']
  | c =>
      if isControl c then
        ['\\', 'u', '0', '0', (Json.hexDigit (c.toNat / 16)).toUpper, (Json.hexDigit (c.toNat % 16)).toUpper]
      else [c]

/-- Escapes every quote in a row behind the first `free` ones; on several lines the ends of
lines stay. -/
def escapeBasic (lines : Bool) (free left : Nat) : List Char → List Char
  | [] => []
  | '"' :: r =>
      match left with
      | 0 => '\\' :: '"' :: escapeBasic lines free free r
      | left + 1 => '"' :: escapeBasic lines free left r
  | c :: r =>
      (if lines && c == '\n' then ['\n'] else escapeControl c) ++ escapeBasic lines free free r

def opening (quote : Char) (s : List Char) : List Char :=
  quote :: quote :: quote :: (if s.contains '\n' then ['\n'] else [])

def writeText (text : String) : List Char :=
  let s := text.toList
  match formOf s with
  | .basic => '"' :: (escapeBasic false 0 0 s ++ ['"'])
  | .literal => '\'' :: (s ++ ['\''])
  | .basicLines => opening '"' s ++ escapeBasic true 2 2 s ++ ['"', '"', '"']
  | .literalLines => opening '\'' s ++ s ++ ['\'', '\'', '\'']

end Toml
end Fleet
