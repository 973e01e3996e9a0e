import Clearance.Pool.Rehearsal
import Clearance.View.Basic

/-!
# Rehearsals of a view

Refreshes against the scripted services of a rehearsed pool, and resolvers against a backend whose
answers are written in the ciphertexts.
-/

namespace Clearance

/-- The answer that is written in a ciphertext: no payload and no error, an error, a payload and an
error, a fault of the pool, or else the text as the payload. -/
def scriptedAnswer (ciphertext : List UInt8) : Answer :=
  let text := Text.decodeLossy ciphertext
  let unchanged : Answer := .ok { payload := some text }
  match text.toList with
  | '!' :: rest =>
    let (verb, rest) := Script.cutAtColon rest
    let rest := String.ofList rest
    match String.ofList verb with
    | "none" => .ok {}
    | "fail" => .ok { error := some rest }
    | "both" => .ok { payload := some rest, error := some "error" }
    | "gone" => .error (.workerGone 0)
    | "timeout" => .error (.timeout 0 ⟨0⟩)
    | _ => unchanged
  | _ => unchanged

namespace Rehearsal

/-- Put the findings of a refresh into the view, in the order in which they came.  Without a result
for one of them the refresh was given up. -/
def receiveFindings (v : View) (refresh : Refresh) (records : List Nat) :
    List (Nat × Finding) → Refresh × View
  | [] => (refresh, v)
  | (k, .result answer _) :: rest =>
    let (refresh, v) := v.receive refresh (records.getD k 0) answer
    receiveFindings v refresh records rest
  | _ :: rest => receiveFindings v refresh records rest

/-- A refresh whose ciphertexts are decrypted by the pool, all at once.  It has no snapshot if the
services took too long. -/
def refresh (r : Rehearsal) (v : View) (records : List RawRecord) :
    Option (Snapshot × List Event) × View × Rehearsal :=
  let (refresh, v) := v.begin records
  let wanted := refresh.wanted
  let (findings, r) := r.perform [] (wanted.map fun w => .decrypt none w.2 none none)
  let (refresh, v) := receiveFindings v refresh (wanted.map (·.1)) findings
  (v.complete refresh, v, r)

end Rehearsal
end Clearance
