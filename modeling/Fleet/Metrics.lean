import Fleet.Table

/-! Counters as the text that scrapers read: the sent starts and the sent stops as one
family each, with the reason as a label, and every other counter by itself. -/
namespace Fleet
namespace Metrics

structure Family where
  name : String
  help : String
  stem : String

def startsSent : Family := ⟨"steward_starts_sent_total", "Start messages sent, by reason.", "starts_"⟩

def stopsSent : Family := ⟨"steward_stops_sent_total", "Stop messages sent, by reason.", "stops_"⟩

def families : List Family := [startsSent, stopsSent]

def Family.label? (f : Family) (name : String) : Option String :=
  if f.stem.toList.isPrefixOf name.toList then
    some (String.ofList (name.toList.drop f.stem.length))
  else none

def Family.render (f : Family) (counters : List (String × Nat)) : String :=
  let samples := counters.filterMap fun (name, value) => (f.label? name).map (·, value)
  if samples.isEmpty then ""
  else
    "# HELP " ++ f.name ++ " " ++ f.help ++ "\n# TYPE " ++ f.name ++ " counter\n" ++
      String.join (samples.map fun (label, value) =>
        f.name ++ "\x7breason=\"" ++ label ++ "\"\x7d " ++ toString value ++ "\n")

def renderOther (counter : String × Nat) : String :=
  let name := "steward_" ++ counter.1
  "# TYPE " ++ name ++ " counter\n" ++ name ++ " " ++ toString counter.2 ++ "\n"

def render (counters : List (String × Nat)) : String :=
  String.join (families.map (·.render counters)) ++
    String.join ((counters.filter fun c => families.all fun f => (f.label? c.1).isNone).map renderOther)

end Metrics
end Fleet
