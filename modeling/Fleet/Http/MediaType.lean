/-! Media types such as `application/json; charset=utf-8`: a type, a subtype that may
end in a suffix behind its last plus sign, and parameters that must be well formed. -/
namespace Fleet

structure MediaType where
  kind : String
  subtype : String
  suffix? : Option String
  deriving DecidableEq, Repr

namespace MediaType

def isToken (c : Char) : Bool := c.isAlphanum || "!#$%&'*+-.^_`|~".toList.contains c

def isQuotable (c : Char) : Bool := 0x20 ≤ c.toNat && c.toNat < 0x7F

inductive Place where
  | before
  | name
  | start
  | value
  | opened
  | quoted
  | closed
  deriving DecidableEq, Repr

def Place.step : Place → Char → Option Place
  | .before, ' ' => some .before
  | .before, c => if isToken c then some .name else none
  | .name, '=' => some .start
  | .name, c => if isToken c then some .name else none
  | .start, '"' => some .opened
  | .start, c => if isToken c then some .value else none
  | .value, ';' => some .before
  | .value, c => if isToken c then some .value else none
  | .opened, c => if isQuotable c then some .quoted else none
  | .quoted, '"' => some .closed
  | .quoted, c => if isQuotable c then some .quoted else none
  | .closed, ';' => some .before
  | .closed, ' ' => some .closed
  | .closed, _ => none

def Place.isEnd (p : Place) : Bool :=
  match p with
  | .name => false
  | .opened => false
  | .quoted => false
  | _ => true

def areParameters (s : List Char) : Bool := (s.foldlM Place.step .before).any Place.isEnd

def splitSuffix (s : List Char) : List Char × Option (List Char) :=
  let tail := (s.reverse.takeWhile (· != '+')).reverse
  let front := s.take (s.length - tail.length - 1)
  if tail.length < s.length && !front.isEmpty then (front, some tail) else (s, none)

def lower (s : List Char) : String := String.ofList (s.map Char.toLower)

def ofText? (s : String) : Option MediaType :=
  let kind := s.toList.takeWhile isToken
  match kind.isEmpty, s.toList.dropWhile isToken with
  | false, '/' :: r =>
      let (subtype, suffix) := splitSuffix (r.takeWhile isToken)
      let type : MediaType := ⟨lower kind, lower subtype, suffix.map lower⟩
      match r.dropWhile isToken with
      | [] => some type
      | ';' :: r => if areParameters r then some type else none
      | _ => none
  | _, _ => none

def isJson (t : MediaType) : Bool :=
  t.kind = "application" && (t.subtype = "json" || t.suffix? = some "json")

end MediaType
end Fleet
