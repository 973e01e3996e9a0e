import Clearance.Settings.Basic
import Clearance.Toml.Decoder

/-!
# Settings from trees

How the settings are taken from the tree of a settings file.  Every field has a default, so that
only a value of a wrong kind is refused.

## Main definitions

* `Settings.decoder`: the settings of a tree.
-/

namespace Clearance

open Toml (Decoder)
open Toml.Decoder (part record text flag word list)

/-- The identity provider of a tree. -/
def IdentityProvider.decoder : Decoder IdentityProvider :=
  record "KeycloakConfig"
    [part "server_url" text fun v p => { p with serverUrl := v },
      part "client_id" text fun v p => { p with clientId := v }]
    {}

/-- The client's settings of a tree. -/
def ClientSettings.decoder : Decoder ClientSettings :=
  record "ClientConfig"
    [part "platform_url" text fun v c => { c with platformUrl := v },
      part "kas_url" text fun v c => { c with keyAccessUrl := v },
      part "keycloak" IdentityProvider.decoder fun v c => { c with identity := v },
      part "form_submit_nano_tdf" flag fun v c => { c with submitNano := v }]
    {}

/-- The pool's settings of a tree. -/
def PoolSettings.decoder : Decoder PoolSettings :=
  record "PoolConfig" [part "capacity" word fun v p => { p with capacity := v }] {}

/-- The cache's settings of a tree. -/
def CacheSettings.decoder : Decoder CacheSettings :=
  record "CacheConfig"
    [part "cacheable_source_types" (list text) fun v c => { c with cacheableTypes := v }] {}

/-- All settings of a tree. -/
def Settings.decoder : Decoder Settings :=
  record "Config"
    [part "pool" PoolSettings.decoder fun v s => { s with pool := v },
      part "cache" CacheSettings.decoder fun v s => { s with cache := v },
      part "client" ClientSettings.decoder fun v s => { s with client := v }]
    {}

end Clearance
