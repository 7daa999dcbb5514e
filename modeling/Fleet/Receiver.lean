import Fleet.Http.Uri
import Fleet.Procedure

/-! The receiver of messages, known by its endpoint. A message is a request to an address
made from the endpoint, so an endpoint that makes no address takes none. -/
namespace Fleet

inductive SendError where
  | request
  | connect
  deriving DecidableEq, Repr

structure Receiver where
  endpoint : String
  deriving DecidableEq, Repr

namespace Receiver

def path : Message → String
  | .start _ => "/v1/starts"
  | .stop _ => "/v1/stops"

def address (r : Receiver) (m : Message) : String := "http://" ++ r.endpoint ++ path m

def isHeader (s : String) : Bool := s.toList.all fun c => c == '\t' || 0x20 ≤ c.toNat && c.toNat ≠ 0x7F

def send (r : Receiver) (listening : Bool) (m : Message) : Except SendError Unit :=
  if (Uri.ofText? (r.address m)).isNone || !isHeader r.endpoint then .error .request
  else if listening then .ok ()
  else .error .connect

def takes (r : Receiver) (listening : Bool) (m : Message) : Bool :=
  match r.send listening m with
  | .ok _ => true
  | .error _ => false

end Receiver
end Fleet
