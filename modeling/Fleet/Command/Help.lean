import Fleet.Command.Line

/-! The help pages: one on the whole command line and one on each verb. -/
namespace Fleet

namespace Verb

def about : Verb → String
  | .analyze => "Run one analysis cycle and exit"
  | .send => "Run one dispatch cycle and exit"
  | .serve => "Run the API, heartbeat intake, analyzer and sender until Ctrl-C"
  | .importDesired => "Replace the desired state with the specs in a JSON file"
  | .metrics => "Print dispatch counters in Prometheus text format"
  | .pending => "Print pending starts and stops as JSON"

end Verb

namespace Help

def entry (width : Nat) (term meaning : String) : String :=
  "  " ++ term ++ String.ofList (List.replicate (width - term.length) ' ') ++ "  " ++ meaning ++ "\n"

def options : String :=
  "Options:\n" ++
    entry 21 "    --config <CONFIG>"
      "Path to steward.toml. Defaults apply when omitted and the default path does not exist" ++
    entry 21 "    --log-json" "Emit logs as JSON lines" ++
    entry 21 "-h, --help" "Print help"

def commands : String :=
  "Commands:\n" ++ String.join (Verb.all.map fun v => entry 14 v.name v.about) ++
    entry 14 "help" "Print this message or the help of the given subcommand(s)"

def overview : String :=
  "Steward convergence daemon\n\nUsage: stewardd [OPTIONS] <COMMAND>\n\n" ++ commands ++ "\n" ++ options

def page (v : Verb) : String :=
  v.about ++ "\n\nUsage: stewardd " ++ v.name ++ " [OPTIONS]" ++
    (if v.takesFile then " <FILE>\n\nArguments:\n" ++ entry 6 "<FILE>" "JSON array of desired specs"
      else "\n") ++ "\n" ++ options

end Help

def Outcome.help : Option Verb → Outcome
  | none => success Help.overview
  | some v => success (Help.page v)

end Fleet
