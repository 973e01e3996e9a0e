import Clearance.Text.Digits
import Clearance.Text.Utf8
import Clearance.Worker.Decrypt

/-!
# Scripted services

A stand-in for the decryption service whose behaviour is written in the ciphertext itself.  Text
of the form `!VERB:REST` says what the service does and when; any other text is its own plaintext.

## Main definitions

* `Script`: an answer, and when it comes.
* `Script.ofCall`: the script in a ciphertext.
-/

namespace Clearance

/-- When a service answers: after some milliseconds, never, or with the death of the worker. -/
inductive Timing where
  | after (milliseconds : Nat)
  | never
  | dies
  deriving DecidableEq, Repr

/-- An answer, and when it comes. -/
structure Script where
  timing : Timing := .after 0
  answer : Except ServiceFault String

namespace Script

/-- A text cut at its first colon; without one the second part is empty. -/
def cutAtColon (cs : List Char) : List Char × List Char :=
  (cs.takeWhile (· ≠ ':'), (cs.dropWhile (· ≠ ':')).drop 1)

/-- The plaintext form of a ciphertext: its UTF-8 text, without the mark of a compact container. -/
def plaintext (call : ServiceCall) : String :=
  let bytes :=
    if call.codec = .nano then call.ciphertext.drop Codec.nanoMagic.length else call.ciphertext
  Text.decodeLossy bytes

/-- The number that a text writes, zero where it writes none. -/
def number (cs : List Char) : Nat := (Text.digits? cs).getD 0

/-- What a verb makes of the text after it; none for a verb that is not known. -/
def perform (call : ServiceCall) (verb : String) (rest : List Char) : Option Script :=
  let text := String.ofList rest
  match verb with
  | "auth" => some { answer := .error (.auth text) }
  | "key" => some { answer := .error (.keyAccess text) }
  | "malformed" => some { answer := .error (.malformed text) }
  | "decrypt" => some { answer := .error (.decrypt text) }
  | "echo" => some { answer := .ok (call.codec.name ++ ":" ++ text) }
  | "session" =>
    let s := call.session
    some
      { answer :=
          .ok (s.user.accessToken ++ "|" ++ s.user.refreshToken ++ "|" ++ s.config.keyAccessUrl) }
  | "sleep" =>
    let (time, tail) := cutAtColon rest
    some { timing := .after (number time), answer := .ok (String.ofList tail) }
  | "hang" => some { timing := .never, answer := .ok "" }
  | "panic" => some { timing := .dies, answer := .ok "" }
  | _ => none

/-- The script in a ciphertext. -/
def ofCall (call : ServiceCall) : Script :=
  let text := plaintext call
  let unchanged : Script := { answer := .ok text }
  match text.toList with
  | '!' :: rest =>
    let (verb, rest) := cutAtColon rest
    (perform call (String.ofList verb) rest).getD unchanged
  | _ => unchanged

/-- The service that follows its scripts. -/
def service : Service := fun call => (ofCall call).answer

end Script
end Clearance
