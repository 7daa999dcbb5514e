/-! Addresses of requests: a path by itself, or a scheme, an authority and a path. What
stands behind a question mark is checked and let go, and what stands behind a number
sign is not even checked. -/
namespace Fleet

structure Uri where
  authority : String
  path : String
  deriving DecidableEq, Repr

namespace Uri

def limit : Nat := 65534

def isPlain (c : Char) : Bool := c.isAlphanum || "!$&'()*+,-.;=_~".toList.contains c

def endsAuthority (c : Char) : Bool := c == '/' || c == '?' || c == '#'

/-- What was met so far in an authority. The colons and the percent sign count only from
the last `@` or closing bracket on. -/
structure Scan where
  colons : Nat := 0
  percent : Bool := false
  opened : Bool := false
  closed : Bool := false
  named : Bool := true

namespace Scan

def step (s : Scan) (c : Char) : Option Scan :=
  match c with
  | ':' => if s.colons < 8 then some { s with colons := s.colons + 1, named := true } else none
  | '[' => if s.percent || s.opened then none else some { s with opened := true, named := true }
  | ']' =>
      if s.opened && !s.closed then
        some { s with closed := true, colons := 0, percent := false, named := true }
      else none
  | '@' => some { s with colons := 0, percent := false, named := false }
  | '%' => some { s with percent := true, named := true }
  | c => if isPlain c then some { s with named := true } else none

def isComplete (s : Scan) : Bool := s.opened == s.closed && s.colons ≤ 1 && !s.percent && s.named

end Scan

def isAuthority (s : List Char) : Bool :=
  match s.foldlM Scan.step {} with
  | some scan => scan.isComplete
  | none => false

def isPathChar (c : Char) : Bool :=
  0x21 ≤ c.toNat && !"<>`".toList.contains c

def isQueryChar (c : Char) : Bool :=
  0x21 ≤ c.toNat && !"<>\"".toList.contains c

def path? (s : List Char) : Option (List Char) :=
  let path := s.takeWhile fun c => c != '?' && c != '#'
  let query := match s.dropWhile fun c => c != '?' && c != '#' with
    | '?' :: r => r.takeWhile (· != '#')
    | _ => []
  if path.all isPathChar && query.all isQueryChar then
    some (if path.isEmpty then ['/'] else path)
  else none

def behindScheme? (s : List Char) : Option (List Char) :=
  let scheme := (s.takeWhile (· != '/')).map Char.toLower
  match s.dropWhile (· != '/') with
  | '/' :: '/' :: r => if scheme = "http:".toList || scheme = "https:".toList then some r else none
  | _ => none

def ofText? (s : String) : Option Uri := do
  if limit < s.utf8ByteSize then none
  match s.toList with
  | '/' :: r => some ⟨"", String.ofList (← path? ('/' :: r))⟩
  | ['*'] => some ⟨"", "*"⟩
  | cs =>
      let rest ← behindScheme? cs
      let authority := rest.takeWhile (!endsAuthority ·)
      if authority.isEmpty || !isAuthority authority then none
      let path ← path? (rest.dropWhile (!endsAuthority ·))
      some ⟨String.ofList authority, String.ofList path⟩

end Uri
end Fleet
