import Clearance.Json.Record

/-!
# Events

What the view tells its listeners: a kind, a payload, and the time at which it happened.
-/

namespace Clearance

open Json

/-- An event without its time. -/
structure Event where
  kind : String
  payload : Json
  deriving Repr, BEq

/-- An event with the time at which it happened. -/
structure Event.Stamped where
  time : String
  event : Event
  deriving Repr

/-- The document of a stamped event. -/
def Event.Stamped.format : Format Event.Stamped :=
  .record "Envelope"
    (.cons ⟨"time", .text, .refused, fun _ => false⟩ <|
      .cons ⟨"kind", .text, .refused, fun _ => false⟩ <|
      .cons ⟨"payload", .any, .refused, fun _ => false⟩ .nil)
    (fun (time, kind, payload, ()) => ⟨time, ⟨kind, payload⟩⟩)
    (fun e => (e.time, e.event.kind, e.event.payload, ()))

end Clearance
