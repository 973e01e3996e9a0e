import Clearance.Settings.Basic

/-!
# Installed settings

The settings file that the program is installed with.

## Main definitions

* `Settings.installedPath`, `Settings.installedText`: its path and its text.
-/

namespace Clearance.Settings

/-- The path of the installed file, from the directory of the program on. -/
def installedPath : String := "configs/default.toml"

/-- The text of the installed file. -/
def installedText : String :=
  "# Common operating picture client defaults.\n" ++
  "# Environment overrides: COP_POOL_CAPACITY, COP_CACHEABLE_SOURCE_TYPES,\n" ++
  "# COP_FORM_SUBMIT_NANOTDF. Point COP_CONFIG at another file to replace this one.\n" ++
  "\n[pool]\ncapacity = 4\n" ++
  "\n[cache]\n# Source types whose decrypted identity fields never change.\n" ++
  "cacheable_source_types = []\n" ++
  "\n[client]\nplatform_url = \"http://localhost:8080\"\n" ++
  "kas_url = \"http://localhost:8080/kas\"\nform_submit_nano_tdf = false\n" ++
  "\n[client.keycloak]\nserver_url = \"http://localhost:8888/auth/realms/opentdf\"\n" ++
  "client_id = \"cop-web\"\n"

end Clearance.Settings
