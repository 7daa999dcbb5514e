import Fleet.Command

/-! The command line: options, a verb, and the file that one verb wants. Options may stand
on both sides of the verb, each at most once on a side, and the later side wins. Behind
two dashes everything is a file. -/
namespace Fleet

inductive Verb where
  | analyze
  | send
  | serve
  | importDesired
  | metrics
  | pending
  deriving DecidableEq, Repr

namespace Verb

def all : List Verb := [analyze, send, serve, importDesired, metrics, pending]

def name : Verb → String
  | .analyze => "analyze"
  | .send => "send"
  | .serve => "serve"
  | .importDesired => "import-desired"
  | .metrics => "metrics"
  | .pending => "pending"

def ofName? (name : String) : Option Verb := all.find? (·.name = name)

def takesFile (v : Verb) : Bool := v = .importDesired

def command? (v : Verb) (file : Option String) : Option Command :=
  match v, file with
  | .analyze, _ => some (.once .analyze)
  | .send, _ => some (.once .send)
  | .serve, _ => some .serve
  | .importDesired, some file => some (.once (.importDesired file))
  | .importDesired, none => none
  | .metrics, _ => some (.once .metrics)
  | .pending, _ => some (.once .pending)

end Verb

structure Invocation where
  settingsFile : Option String
  logJson : Bool
  command : Command
  deriving DecidableEq, Repr

inductive Line where
  | invoke (i : Invocation)
  | help (verb : Option Verb)
  | misuse
  deriving DecidableEq, Repr

namespace Line

structure Side where
  settingsFile : Option String := none
  logJson : Bool := false
  file : Option String := none

def isOption (arg : String) : Bool := arg.toList.head? = some '-' && arg ≠ "-"

def isHelp (arg : String) : Bool := arg = "--help" || "-h".toList.isPrefixOf arg.toList

def withSettings (s : Side) (value : String) : Option Side :=
  if value = "" ∨ s.settingsFile.isSome then none else some { s with settingsFile := some value }

def withLogJson (s : Side) : Option Side := if s.logJson then none else some { s with logJson := true }

def withFile (verb : Verb) (s : Side) (value : String) : Option Side :=
  if value = "" ∨ s.file.isSome ∨ !verb.takesFile then none else some { s with file := some value }

def flag? (s : Side) (arg : String) : Option Side :=
  let head := "--config=".toList
  if arg = "--log-json" then withLogJson s
  else if head.isPrefixOf arg.toList then withSettings s (String.ofList (arg.toList.drop head.length))
  else none

def finish (front : Side) (verb : Verb) (s : Side) : Line :=
  match verb.command? s.file with
  | some command => .invoke ⟨s.settingsFile <|> front.settingsFile, front.logJson || s.logJson, command⟩
  | none => .misuse

def files (verb : Verb) (s : Side) (args : List String) : Option Side := args.foldlM (withFile verb) s

def behind (front : Side) (verb : Verb) (s : Side) : List String → Line
  | [] => finish front verb s
  | arg :: rest =>
      if arg = "--" then
        match files verb s rest with
        | some s => finish front verb s
        | none => .misuse
      else if arg = "--config" then
        match rest with
        | value :: rest =>
            match isOption value, withSettings s value with
            | false, some s => behind front verb s rest
            | _, _ => .misuse
        | [] => .misuse
      else if isHelp arg then .help verb
      else
        match if isOption arg then flag? s arg else withFile verb s arg with
        | some s => behind front verb s rest
        | none => .misuse

def helpOn : List String → Line
  | [] => .help none
  | [name] =>
      match Verb.ofName? name with
      | some verb => .help verb
      | none => .misuse
  | _ => .misuse

def before (s : Side) : List String → Line
  | [] => .misuse
  | arg :: rest =>
      if arg = "--config" then
        match rest with
        | value :: rest =>
            match isOption value, withSettings s value with
            | false, some s => before s rest
            | _, _ => .misuse
        | [] => .misuse
      else if isHelp arg then .help none
      else if arg = "help" then helpOn rest
      else
        match Verb.ofName? arg, flag? s arg with
        | some verb, _ => behind s verb {} rest
        | none, some s => before s rest
        | none, none => .misuse

def ofArguments (args : List String) : Line := before {} args

end Line
end Fleet
