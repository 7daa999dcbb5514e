import Fleet.Http.MediaType
import Fleet.Metrics
import Fleet.Service
import Fleet.View

/-! What the service answers to requests: it takes in heartbeats and the wanted state, and
shows the apps, the pending actions and the counters. -/
namespace Fleet
namespace Api

structure Request where
  method : String
  path : String
  contentType : Option String
  body : String

structure Content where
  type : String
  text : String
  deriving DecidableEq

structure Response where
  status : Nat
  content : Option Content
  deriving DecidableEq

namespace Response

def refuse (status : Nat) : Response := ⟨status, none⟩

def json (status : Nat) (data : Json) : Response :=
  ⟨status, some ⟨"application/json",
    (Json.object [("success", .bool true), ("data", data)]).toText⟩⟩

def plain (text : String) : Response :=
  ⟨200, some ⟨"text/plain; version=0.0.4; charset=utf-8", text⟩⟩

def head (r : Response) : Response := { r with content := r.content.map ({ · with text := "" }) }

end Response

inductive Route where
  | heartbeats
  | desired
  | apps
  | pending
  | metrics
  deriving DecidableEq, Repr

namespace Route

def all : List Route := [heartbeats, desired, apps, pending, metrics]

def path : Route → String
  | .heartbeats => "/v1/heartbeats"
  | .desired => "/v1/desired"
  | .apps => "/v1/apps"
  | .pending => "/v1/pending"
  | .metrics => "/metrics"

def method : Route → String
  | .heartbeats => "POST"
  | .desired => "PUT"
  | .apps => "GET"
  | .pending => "GET"
  | .metrics => "GET"

def ofPath? (path : String) : Option Route := all.find? (·.path = path)

end Route

def bodyLimit : Nat := 2 * 1024 * 1024

def records (α : Type) [Record α] (r : Request) : Except Nat (List α) :=
  if !(r.contentType.bind MediaType.ofText?).any MediaType.isJson then .error 415
  else if bodyLimit < r.body.utf8ByteSize then .error 413
  else
    match Record.decodeAll r.body with
    | .ok rs => .ok rs
    | .error .malformed => .error 400
    | .error .mismatch => .error 422

def viewJson (v : View) : Json :=
  .object [
    ("app_id", .text v.app.id),
    ("app_version", .text v.app.version),
    ("desired", .ofOption Record.toJson v.desired),
    ("instance_count", .nat v.target),
    ("running_indices", (Cell.tally v.running).json),
    ("heartbeats", .array (v.heartbeats.map Record.toJson))]

def apps (now : Nat) (s : Store) : Except StoreError Json := do
  let desired ← s.desiredState
  let actual ← s.actualState now
  .ok (.array ((Snapshot.ofState desired actual).apps.map viewJson))

def pending (s : Store) : Except StoreError Json := do
  let starts ← s.starts.scan
  let stops ← s.stops.scan
  .ok (.object [("starts", .array (starts.map Record.toJson)), ("stops", .array (stops.map Record.toJson))])

def show? : Except StoreError Json → Response
  | .ok data => .json 200 data
  | .error _ => .refuse 500

def respond (now : Nat) (r : Request) (s : Service) : Route → Response × Service
  | .heartbeats =>
      match records Heartbeat r with
      | .error status => (.refuse status, s)
      | .ok hs =>
          let intake := s.intake.record hs now
          (.json 202 (.object [("accepted", .nat hs.length), ("buffered", .nat intake.size)]),
            { s with intake })
  | .desired =>
      match records Spec r with
      | .error status => (.refuse status, s)
      | .ok specs =>
          (.json 200 (.object [("apps", .nat specs.length)]),
            { s with store := s.store.syncDesired specs now })
  | .apps => (show? (apps now s.store), s)
  | .pending => (show? (pending s.store), s)
  | .metrics => (.plain (Metrics.render s.store.metrics.entries), s)

end Api

def Service.answer (now : Nat) (r : Api.Request) (s : Service) : Api.Response × Service :=
  match Api.Route.ofPath? r.path with
  | none => (.refuse 404, s)
  | some route =>
      if r.method = route.method then Api.respond now r s route
      else if r.method = "HEAD" ∧ route.method = "GET" then
        let (response, s) := Api.respond now r s route
        (response.head, s)
      else (.refuse 405, s)

end Fleet
