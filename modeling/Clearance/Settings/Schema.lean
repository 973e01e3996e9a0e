import Clearance.Json.Schema
import Clearance.Settings.Basic

/-!
# The schema of the settings

What a settings file may hold.  Its defaults are those of `Settings`, and it asks for one thing
that the document format of the settings does not: at least one worker.

## Main definitions

* `Settings.schema`: the schema of a settings file.
-/

namespace Clearance

open Json

/-- The schema of an identity provider. -/
def IdentityProvider.schema : Schema :=
  .record "KeycloakConfig"
    (some "Identity provider settings used by the crypto SDK to exchange tokens.")
    [.mk "server_url"
        (some "Base URL of the OIDC server, e.g. <https://idp.example.com/realms/cop>")
        (.string "") .text,
      .mk "client_id" none (.string "") .text]

/-- The schema of the client's settings. -/
def ClientSettings.schema : Schema :=
  .record "ClientConfig"
    (some "Data-security-platform settings shared by the UI thread and its workers.")
    [.mk "platform_url" none (.string "") .text,
      .mk "kas_url" none (.string "") .text,
      .mk "keycloak" none (IdentityProvider.format.encode {}) IdentityProvider.schema,
      .mk "form_submit_nano_tdf"
        (some "Encrypt newly authored objects as NanoTDF instead of TDF3/ZTDF.")
        (.bool false) .flag]

/-- The schema of the pool's settings. -/
def PoolSettings.schema : Schema :=
  .record "PoolConfig" none
    [.mk "capacity" (some "Maximum number of decrypt workers.") (.int 4) (.count 1)]

/-- The schema of the cache's settings. -/
def CacheSettings.schema : Schema :=
  .record "CacheConfig" none
    [.mk "cacheable_source_types"
      (some "Source type ids whose decrypted static fields may be memoized.")
      (.array []) (.list .text)]

/-- The schema of a settings file. -/
def Settings.schema : Schema :=
  .record "Config" none
    [.mk "pool" none (PoolSettings.format.encode {}) PoolSettings.schema,
      .mk "cache" none (CacheSettings.format.encode {}) CacheSettings.schema,
      .mk "client" none (ClientSettings.format.encode {}) ClientSettings.schema]

end Clearance
