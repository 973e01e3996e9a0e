import Clearance.Settings.Basic

/-!
# Messages to and from workers

A worker is told its session first and then given ciphertexts; it answers that it is ready and
then with one result per ciphertext.  Requests are told apart by their shape and replies by a tag.

A message also has a description for logs, in which credentials are blotted out.

## Main definitions

* `Credentials`, `WorkerSession`: what a worker is told first.
* `Request`, `Reply`, `Outcome`: what goes to a worker, what comes back, and the result of one
  request.
* `Request.format`, `Reply.format`: their documents.
* `Request.describe`, `Reply.describe`: their descriptions.
-/

namespace Clearance

open Json

/-- The tokens of the signed-in principal. -/
structure Credentials where
  accessToken : String
  refreshToken : String
  deriving DecidableEq, Repr

/-- What a worker is told before anything else. -/
structure WorkerSession where
  config : ClientSettings
  user : Credentials
  deriving DecidableEq, Repr

/-- The result of one request: a payload, or an error, or neither for an empty ciphertext. -/
structure Outcome where
  payload : Option String := none
  error : Option String := none
  deriving DecidableEq, Repr

/-- What is sent to a worker. -/
inductive Request where
  | start (session : WorkerSession)
  | decrypt (ciphertext : List UInt8)
  deriving DecidableEq, Repr

/-- What a worker sends back. -/
inductive Reply where
  | ready
  | result (outcome : Outcome)
  deriving DecidableEq, Repr

/-! ## Documents -/

/-- The document of credentials. -/
def Credentials.format : Format Credentials :=
  .record "UserCredentials"
    (.cons ⟨"accessToken", .text, .refused, fun _ => false⟩ <|
      .cons ⟨"refreshToken", .text, .refused, fun _ => false⟩ .nil)
    (fun (accessToken, refreshToken, ()) => ⟨accessToken, refreshToken⟩)
    (fun c => (c.accessToken, c.refreshToken, ()))

/-- The document of a session. -/
def WorkerSession.format : Format WorkerSession :=
  .record "WorkerInit"
    (.cons ⟨"config", ClientSettings.format, .refused, fun _ => false⟩ <|
      .cons ⟨"user", Credentials.format, .refused, fun _ => false⟩ .nil)
    (fun (config, user, ()) => ⟨config, user⟩) (fun s => (s.config, s.user, ()))

/-- The document of a ciphertext handed to a worker. -/
def ciphertextFormat : Format (List UInt8) :=
  .record "DecryptRequest"
    (.cons ⟨"tdfBlobBuffer", .list .byte, .refused, fun _ => false⟩ .nil)
    (fun (ciphertext, ()) => ciphertext) (fun ciphertext => (ciphertext, ()))

/-- The document of a result.  An object may lack either part. -/
def Outcome.format : Format Outcome :=
  .record "DecryptionResult"
    (.cons ⟨"decryptedPayload", .option .text, .inObject none, fun _ => false⟩ <|
      .cons ⟨"error", .option .text, .inObject none, fun _ => false⟩ .nil)
    (fun (payload, error, ()) => ⟨payload, error⟩) (fun o => (o.payload, o.error, ()))

/-- The document of a request, told apart by its shape. -/
def Request.format : Format Request :=
  (Format.either "WorkerRequest" WorkerSession.format ciphertextFormat).map
    (fun
      | .inl session => .start session
      | .inr ciphertext => .decrypt ciphertext)
    (fun
      | .start session => .inl session
      | .decrypt ciphertext => .inr ciphertext)

/-- The two kinds of reply. -/
inductive Reply.Case where
  | ready
  | result
  deriving DecidableEq, Repr

/-- The tag of a kind of reply. -/
def Reply.Case.tag : Reply.Case → String
  | .ready => "init-complete"
  | .result => "decryption-result"

/-- The tags of replies. -/
def Reply.Case.tags : List (String × Reply.Case) :=
  [(Reply.Case.tag .ready, .ready), (Reply.Case.tag .result, .result)]

/-- The document of a reply, without its tag. -/
def Reply.body : Reply.Case → Json → Except Cause Reply
  | .ready, .array (v :: items) => .error (tooMany .setAside (v :: items).length 0)
  | .ready, _ => .ok .ready
  | .result, v => (Outcome.format.decode .setAside v).map .result

/-- The document of a reply. -/
def Reply.encode : Reply → Json
  | .ready => .object [("type", .string (Reply.Case.tag .ready))]
  | .result o =>
    .object <|
      ("type", .string (Reply.Case.tag .result)) :: (Outcome.format.encode o).members?.getD []

/-- The document of a reply, told apart by its tag. -/
def Reply.format : Format Reply :=
  .tagged "WorkerReply" "type" (.caseName Reply.Case.tags Reply.Case.tag) Reply.encode Reply.body

/-! ## Descriptions -/

/-- The description of a record: its name, and its fields in braces. -/
def describeRecord (name : String) (fields : List (String × String)) : String :=
  name ++ " \x7b " ++ Text.joinWith ", " (fields.map fun (k, v) => k ++ ": " ++ v) ++ " \x7d"

/-- The description of a text that may be missing. -/
def describeOptional : Option String → String
  | none => "None"
  | some s => "Some(" ++ Text.quoted s ++ ")"

/-- The description of the credentials, which tells nothing of them. -/
def Credentials.describe (_ : Credentials) : String :=
  describeRecord "UserCredentials"
    [("access_token", Text.quoted "<redacted>"), ("refresh_token", Text.quoted "<redacted>")]

/-- The description of an identity provider. -/
def IdentityProvider.describe (p : IdentityProvider) : String :=
  describeRecord "KeycloakConfig"
    [("server_url", Text.quoted p.serverUrl), ("client_id", Text.quoted p.clientId)]

/-- The description of the client's settings. -/
def ClientSettings.describe (c : ClientSettings) : String :=
  describeRecord "ClientConfig"
    [("platform_url", Text.quoted c.platformUrl), ("kas_url", Text.quoted c.keyAccessUrl),
      ("keycloak", c.identity.describe), ("form_submit_nano_tdf", toString c.submitNano)]

/-- The description of a session. -/
def WorkerSession.describe (s : WorkerSession) : String :=
  describeRecord "WorkerInit" [("config", s.config.describe), ("user", s.user.describe)]

/-- The description of a result. -/
def Outcome.describe (o : Outcome) : String :=
  describeRecord "DecryptionResult"
    [("decrypted_payload", describeOptional o.payload), ("error", describeOptional o.error)]

/-- The description of a request. -/
def Request.describe : Request → String
  | .start session => "Init(" ++ session.describe ++ ")"
  | .decrypt ciphertext =>
    let bytes := ciphertext.map fun b => toString b.toNat
    "Decrypt(" ++
      describeRecord "DecryptRequest"
        [("tdf_blob_buffer", "[" ++ Text.joinWith ", " bytes ++ "]")] ++
      ")"

/-- The description of a reply. -/
def Reply.describe : Reply → String
  | .ready => "InitComplete"
  | .result o => "DecryptionResult(" ++ o.describe ++ ")"

end Clearance
