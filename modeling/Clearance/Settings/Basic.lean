import Clearance.Codec
import Clearance.Json.Record

/-!
# Settings

What the client is told before it starts: how many workers decrypt, which source types are cached,
and where the platform and its identity provider are.  Every field has a default.

## Main definitions

* `IdentityProvider`, `ClientSettings`: the platform, as the workers are told of it.
* `Settings`: all settings.
* `Settings.format`: their document.
-/

namespace Clearance

open Json

/-- Where tokens are exchanged. -/
structure IdentityProvider where
  serverUrl : String := ""
  clientId : String := ""
  deriving DecidableEq, Repr

/-- Where the platform is, and which container new objects are written in. -/
structure ClientSettings where
  platformUrl : String := ""
  keyAccessUrl : String := ""
  identity : IdentityProvider := {}
  submitNano : Bool := false
  deriving DecidableEq, Repr

/-- The settings of the worker pool. -/
structure PoolSettings where
  capacity : UInt64 := 4
  deriving DecidableEq, Repr

/-- The settings of the cache. -/
structure CacheSettings where
  cacheableTypes : List String := []
  deriving DecidableEq, Repr

/-- All settings. -/
structure Settings where
  pool : PoolSettings := {}
  cache : CacheSettings := {}
  client : ClientSettings := {}
  deriving DecidableEq, Repr

/-- A field with a default, in any kind of document. -/
def defaulted {α : Type} (name : String) (format : Format α) (value : α) : RecordField α :=
  ⟨name, format, .anywhere value, fun _ => false⟩

/-- The document of an identity provider. -/
def IdentityProvider.format : Format IdentityProvider :=
  .record "KeycloakConfig"
    (.cons (defaulted "server_url" .text "") <| .cons (defaulted "client_id" .text "") .nil)
    (fun (serverUrl, clientId, ()) => ⟨serverUrl, clientId⟩)
    (fun p => (p.serverUrl, p.clientId, ()))

/-- The document of the client's settings. -/
def ClientSettings.format : Format ClientSettings :=
  .record "ClientConfig"
    (.cons (defaulted "platform_url" .text "") <| .cons (defaulted "kas_url" .text "") <|
      .cons (defaulted "keycloak" IdentityProvider.format {}) <|
      .cons (defaulted "form_submit_nano_tdf" .flag false) .nil)
    (fun (platformUrl, keyAccessUrl, identity, submitNano, ()) =>
      ⟨platformUrl, keyAccessUrl, identity, submitNano⟩)
    (fun c => (c.platformUrl, c.keyAccessUrl, c.identity, c.submitNano, ()))

/-- The document of the pool's settings. -/
def PoolSettings.format : Format PoolSettings :=
  .record "PoolConfig" (.cons (defaulted "capacity" .word 4) .nil)
    (fun (capacity, ()) => ⟨capacity⟩) (fun p => (p.capacity, ()))

/-- The document of the cache's settings. -/
def CacheSettings.format : Format CacheSettings :=
  .record "CacheConfig" (.cons (defaulted "cacheable_source_types" (.list .text) []) .nil)
    (fun (cacheableTypes, ()) => ⟨cacheableTypes⟩) (fun c => (c.cacheableTypes, ()))

/-- The document of all settings. -/
def Settings.format : Format Settings :=
  .record "Config"
    (.cons (defaulted "pool" PoolSettings.format {}) <|
      .cons (defaulted "cache" CacheSettings.format {}) <|
      .cons (defaulted "client" ClientSettings.format {}) .nil)
    (fun (pool, cache, client, ()) => ⟨pool, cache, client⟩)
    (fun s => (s.pool, s.cache, s.client, ()))

/-- The container that new objects are written in. -/
def Codec.ofSettings (c : ClientSettings) : Codec := if c.submitNano then .nano else .standard

end Clearance
