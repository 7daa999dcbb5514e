import Fleet.Json.Escape
import Fleet.Numeral.Shortest

/-! JSON values and their text: on one line, or one entry a line with two blanks for
each level. -/
namespace Fleet

inductive Json where
  | null
  | bool (value : Bool)
  | number (value : Numeral)
  | text (value : String)
  | array (items : List Json)
  | object (members : List (String × Json))
  deriving Inhabited

namespace Json

def nat (n : Nat) : Json := .number (.ofNat n)

def real (x : Binary64) : Json := if x.isFinite then .number (.ofBinary x) else .null

def ofOption {α : Type} (f : α → Json) : Option α → Json
  | none => .null
  | some a => f a

mutual

def compact : Json → List Char
  | .null => ['n', 'u', 'l', 'l']
  | .bool true => ['t', 'r', 'u', 'e']
  | .bool false => ['f', 'a', 'l', 's', 'e']
  | .number n => n.text
  | .text s => quoted s
  | .array [] => ['[', ']']
  | .array (j :: rest) => '[' :: (compact j ++ compactItems rest)
  | .object [] => ['{', '}']
  | .object ((k, j) :: rest) => '{' :: (quoted k ++ ':' :: (compact j ++ compactMembers rest))

def compactItems : List Json → List Char
  | [] => [']']
  | j :: rest => ',' :: (compact j ++ compactItems rest)

def compactMembers : List (String × Json) → List Char
  | [] => ['}']
  | (k, j) :: rest => ',' :: (quoted k ++ ':' :: (compact j ++ compactMembers rest))

end

def line (depth : Nat) : List Char := '\n' :: List.replicate (2 * depth) ' '

mutual

def indented (depth : Nat) : Json → List Char
  | .array (j :: rest) => '[' :: (line (depth + 1) ++ indented (depth + 1) j ++ indentedItems depth rest)
  | .object ((k, j) :: rest) =>
      '{' :: (line (depth + 1) ++ quoted k ++ ':' :: ' ' :: (indented (depth + 1) j ++
        indentedMembers depth rest))
  | .array [] => ['[', ']']
  | .object [] => ['{', '}']
  | .null => ['n', 'u', 'l', 'l']
  | .bool true => ['t', 'r', 'u', 'e']
  | .bool false => ['f', 'a', 'l', 's', 'e']
  | .number n => n.text
  | .text s => quoted s

def indentedItems (depth : Nat) : List Json → List Char
  | [] => line depth ++ [']']
  | j :: rest => ',' :: (line (depth + 1) ++ indented (depth + 1) j ++ indentedItems depth rest)

def indentedMembers (depth : Nat) : List (String × Json) → List Char
  | [] => line depth ++ ['}']
  | (k, j) :: rest =>
      ',' :: (line (depth + 1) ++ quoted k ++ ':' :: ' ' :: (indented (depth + 1) j ++
        indentedMembers depth rest))

end

def toText (j : Json) : String := String.ofList (compact j)

def toIndentedText (j : Json) : String := String.ofList (indented 0 j)

end Json

end Fleet
