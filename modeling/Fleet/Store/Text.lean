import Fleet.Store

/-! A store as text: one JSON object with an object for each table, in which the texts of
the records stand under their keys. Rows that do not decode are kept as they are. -/
namespace Fleet

namespace Row
variable {α : Type} [Record α]

def text : Row α → String
  | .held r => Record.encode r
  | .foreign text => text

end Row

namespace Store
open Json (Outline)

def rowsJson {α : Type} [Record α] (rows : Rows α) : Json :=
  .object (rows.entries.map fun e => (e.1, .text e.2.text))

def toText (s : Store) : String :=
  (Json.object [
    ("desired", rowsJson s.desired),
    ("actual", rowsJson s.actual),
    ("crash_counts", rowsJson s.crashCounts),
    ("pending_starts", rowsJson s.starts),
    ("pending_stops", rowsJson s.stops),
    ("metrics", .object (s.metrics.entries.map fun e => (e.1, .nat e.2))),
    ("freshness", Record.toJson s.freshness),
    ("last_id", .nat s.lastId)]).toText

def memberText? (raw : List Char) : Option String := (Json.decodeText raw).map String.ofList

def rows? {α : Type} : Outline → Option (Rows α)
  | .object members .closed => do
      let entries ← members.mapM fun (k, v) =>
        match v with
        | .text raw => do some (← memberText? k, Row.foreign (← memberText? raw))
        | _ => none
      some (.ofList entries)
  | _ => none

def counters? : Outline → Option (Table String Nat)
  | .object members .closed => do
      let entries ← members.mapM fun (k, v) =>
        match v with
        | .number n => do some (← memberText? k, ← n.toNat? Bounds.instant)
        | _ => none
      some (.ofList entries)
  | _ => none

def ofText? (text : String) : Option Store :=
  match Outline.ofText text.toList with
  | (.object [(_, desired), (_, actual), (_, crashCounts), (_, starts), (_, stops), (_, metrics),
      (_, freshness), (_, .number lastId)] .closed, true) => do
        some {
          desired := ← rows? desired
          actual := ← rows? actual
          crashCounts := ← rows? crashCounts
          starts := ← rows? starts
          stops := ← rows? stops
          metrics := ← counters? metrics
          freshness := ← (Record.ofOutline freshness).toOption
          lastId := ← lastId.toNat? Bounds.instant
          heartbeatTtl := 0 }
  | _ => none

end Store
end Fleet
