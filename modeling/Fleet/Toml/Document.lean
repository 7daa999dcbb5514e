import Fleet.Toml.Layout
import Fleet.Toml.Text

/-! Documents of the settings format: their statements, how these are written, and how a
document is read from its text. -/
namespace Fleet
namespace Toml

def skip (s : List Char) : List Char := s.dropWhile fun c => c == ' ' || c == '\t'

def newline? : List Char → Option (List Char)
  | [] => some []
  | '\n' :: r => some r
  | '\r' :: '\n' :: r => some r
  | _ => none

def pastComment (s : List Char) : List Char := s.dropWhile fun c => !isControl c

def lineEnd (s : List Char) : Option (List Char) :=
  match skip s with
  | '#' :: r => newline? (pastComment r)
  | r => newline? r

def skipLines : Nat → List Char → Option (List Char)
  | 0, _ => none
  | fuel + 1, s =>
      match skip s with
      | '#' :: r =>
          match newline? (pastComment r) with
          | some r => skipLines fuel r
          | none => none
      | '\n' :: r => skipLines fuel r
      | '\r' :: '\n' :: r => skipLines fuel r
      | r => some r

def isBare (c : Char) : Bool := c.isAlphanum || c == '-' || c == '_'

def readKey : List Char → Option (String × List Char)
  | '"' :: r => (basicBody r).map fun (t, rest) => (String.ofList t, rest)
  | '\'' :: r => (literalBody r).map fun (t, rest) => (String.ofList t, rest)
  | s =>
      let key := s.takeWhile isBare
      if key.isEmpty then none else some (String.ofList key, s.dropWhile isBare)

def depthLimit : Nat := 80

def readPath : Nat → List Char → Option ((List String × String) × List Char)
  | 0, _ => none
  | fuel + 1, s => do
      let (key, r) ← readKey (skip s)
      match skip r with
      | '.' :: r =>
          let ((path, last), r) ← readPath fuel r
          some ((key :: path, last), r)
      | r => some (([], key), r)

def readDotted (s : List Char) : Option ((List String × String) × List Char) := do
  let (key, r) ← readPath (s.length + 1) s
  if key.1.length + 1 < depthLimit then some (key, r) else none

mutual

def readValue : Nat → Nat → List Char → Option (Toml × List Char)
  | 0, _, _ => none
  | fuel + 1, depth, s =>
      match s with
      | '[' :: r =>
          if depth + 1 < depthLimit then do
            let (items, r) ← readItems fuel (depth + 1) r
            some (.array items, r)
          else none
      | '\x7b' :: r =>
          if depth + 1 < depthLimit then do
            let (es, r) ← readInline fuel (depth + 1) [] (skip r)
            some (.table (Node.entriesToToml es), r)
          else none
      | '"' :: r => (readText ('"' :: r)).map fun (t, rest) => (.text t, rest)
      | '\'' :: r => (readText ('\'' :: r)).map fun (t, rest) => (.text t, rest)
      | s => (Scalar.read s).map fun (x, rest) => (.scalar x, rest)

def readItems : Nat → Nat → List Char → Option (List Toml × List Char)
  | 0, _, _ => none
  | fuel + 1, depth, s => do
      let s ← skipLines (s.length + 1) s
      match s with
      | ']' :: r => some ([], r)
      | s =>
          let (v, r) ← readValue fuel depth s
          let r ← skipLines (r.length + 1) r
          match r with
          | ']' :: r => some ([v], r)
          | ',' :: r =>
              let (rest, r) ← readItems fuel depth r
              some (v :: rest, r)
          | _ => none

def readInline : Nat → Nat → Node.Entries → List Char → Option (Node.Entries × List Char)
  | 0, _, _, _ => none
  | fuel + 1, depth, es, s =>
      match s, es with
      | '\x7d' :: r, [] => some ([], r)
      | s, es => do
          let ((path, key), r) ← readDotted s
          match r with
          | '=' :: r =>
              let (v, r) ← readValue fuel depth (skip r)
              let es ← Node.insert path key v es
              match skip r with
              | '\x7d' :: r => some (es, r)
              | ',' :: r => readInline fuel depth es r
              | _ => none
          | _ => none

end

inductive Statement where
  | header (path : List String) (key : String)
  | element (path : List String) (key : String)
  | pair (path : List String) (key : String) (value : Toml)

def readPair (s : List Char) : Option (Statement × List Char) := do
  let ((path, key), r) ← readDotted s
  match r with
  | '=' :: r =>
      let (v, r) ← readValue (2 * r.length + 2) 0 (skip r)
      let r ← lineEnd r
      some (.pair path key v, r)
  | _ => none

def readElement (s : List Char) : Option (Statement × List Char) := do
  let ((path, key), r) ← readDotted s
  match r with
  | ']' :: ']' :: r => (lineEnd r).map (.element path key, ·)
  | _ => none

def readHeader (s : List Char) : Option (Statement × List Char) := do
  let ((path, key), r) ← readDotted s
  match r with
  | ']' :: r => (lineEnd r).map (.header path key, ·)
  | _ => none

def readStatements : Nat → List Char → Option (List Statement)
  | 0, _ => none
  | fuel + 1, s =>
      match skip s with
      | [] => some []
      | '#' :: r =>
          match newline? (pastComment r) with
          | some r => readStatements fuel r
          | none => none
      | '\n' :: r => readStatements fuel r
      | '\r' :: '\n' :: r => readStatements fuel r
      | '[' :: '[' :: r => do
          let (statement, r) ← readElement r
          let rest ← readStatements fuel r
          some (statement :: rest)
      | '[' :: r => do
          let (statement, r) ← readHeader r
          let rest ← readStatements fuel r
          some (statement :: rest)
      | r => do
          let (statement, r) ← readPair r
          let rest ← readStatements fuel r
          some (statement :: rest)

structure Layout where
  root : Node.Entries
  current : List String

def Layout.add (l : Layout) : Statement → Option Layout
  | .header path key => (Node.openTable path key l.root).map (⟨·, path ++ [key]⟩)
  | .element path key => (Node.pushTable path key l.root).map (⟨·, path ++ [key]⟩)
  | .pair path key v =>
      (Node.descend false (fun _ es => Node.insert path key v es) false l.current l.root).map
        (⟨·, l.current⟩)

def layout (statements : List Statement) : Option Layout := statements.foldlM Layout.add ⟨[], []⟩

def read (text : String) : Option (List (String × Toml)) := do
  let s := match text.toList with
    | '\ufeff' :: r => r
    | r => r
  let statements ← readStatements (s.length + 1) s
  let l ← layout statements
  some (Node.entriesToToml l.root)

end Toml
end Fleet
