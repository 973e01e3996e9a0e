import Clearance.Worker.Message
import Clearance.Pool.Duration

/-!
# Decrypting one request

What a worker does with a ciphertext.  Most of the work is that of a decryption service, which is
given here as a function; some requests are answered without asking it.

## Main definitions

* `Service`, `ServiceFault`: the decryption service, and how it fails.
* `prepare`: the answer to a request that needs no service, or what the service is asked.
* `decryptOne`: the answer to a request.
* `PoolFault`: why a request is left without an answer.
-/

namespace Clearance

/-- How a decryption fails. -/
inductive ServiceFault where
  | auth (reason : String)
  | keyAccess (reason : String)
  | malformed (reason : String)
  | decrypt (reason : String)
  deriving DecidableEq, Repr

/-- The wording of a failure. -/
def ServiceFault.message : ServiceFault → String
  | .auth reason => "authentication failed: " ++ reason
  | .keyAccess reason => "key access denied: " ++ reason
  | .malformed reason => "malformed container: " ++ reason
  | .decrypt reason => "decrypt failed: " ++ reason

/-- Why a request is left without an answer. -/
inductive PoolFault where
  | zeroCapacity
  | workerGone (worker : Nat)
  | timeout (worker : Nat) (limit : Duration)
  deriving DecidableEq, Repr

/-- The wording of a fault. -/
def PoolFault.message : PoolFault → String
  | .zeroCapacity => "worker pool capacity must be at least 1"
  | .workerGone worker => "worker " ++ toString worker ++ " is gone"
  | .timeout worker limit =>
    "worker " ++ toString worker ++ " did not answer within " ++ limit.text

/-- What a decryption service is asked. -/
structure ServiceCall where
  codec : Codec
  ciphertext : List UInt8
  session : WorkerSession
  deriving DecidableEq, Repr

/-- A decryption service: its answer to a call. -/
abbrev Service := ServiceCall → Except ServiceFault String

/-- The outcome of an answer. -/
def Outcome.ofAnswer : Except ServiceFault String → Outcome
  | .ok payload => { payload := some payload }
  | .error fault => { error := some fault.message }

/-- The outcome of a request that needs no service, or the call that it needs: without a session,
with an empty ciphertext and without a refresh token the service is not asked. -/
def prepare (session : Option WorkerSession) (ciphertext : List UInt8) :
    Except Outcome ServiceCall :=
  match session with
  | none =>
    .error { error := some "worker received decryption request before initialization" }
  | some s =>
    if ciphertext.isEmpty then .error {}
    else if s.user.refreshToken = "" then
      .error (.ofAnswer (.error (.auth "no refresh token found")))
    else .ok ⟨.classify ciphertext, ciphertext, s⟩

/-- The outcome of a request. -/
def decryptOne (service : Service) (session : Option WorkerSession) (ciphertext : List UInt8) :
    Outcome :=
  match prepare session ciphertext with
  | .error o => o
  | .ok call => .ofAnswer (service call)

end Clearance
