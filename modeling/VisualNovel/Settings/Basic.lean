import VisualNovel.Record.Dump
import VisualNovel.Record.Scalar

/-!
# Settings

The settings of a player's client: where the backend and the images are, which tenant
and script to play, and how long to wait for an answer.  All of them have defaults.
-/

namespace VisualNovel

/-- The settings of a client. -/
structure Settings where
  apiUrl : String
  tenant : String
  scenario : String
  assetBase : String
  /-- The time to wait for an answer, in seconds. -/
  timeout : Binary64
  deriving DecidableEq, Repr

namespace Settings

/-- The settings of a client that is told nothing. -/
def default : Settings :=
  { apiUrl := "http://localhost:13013"
    tenant := "demo"
    scenario := "main"
    assetBase := "http://localhost:13013/media/"
    timeout := Binary64.ofInt 30 }

namespace Part

/-- Where the backend is. -/
def apiUrl : Field := .plain "api_url"

/-- The tenant. -/
def tenant : Field := .plain "tenant_id"

/-- The name of the script. -/
def scenario : Field := .plain "scenario_name"

/-- Where the images are. -/
def assetBase : Field := .plain "asset_base_url"

/-- The time to wait for an answer. -/
def timeout : Field := .plain "timeout"

end Part

/-- The settings of a client. -/
def read : Reader Settings :=
  Reader.record fun fields =>
    Settings.mk <$> Part.apiUrl.optional default.apiUrl Reader.text fields
      <*> Part.tenant.optional default.tenant Reader.text fields
      <*> Part.scenario.optional default.scenario Reader.text fields
      <*> Part.assetBase.optional default.assetBase Reader.text fields
      <*> Part.timeout.optional default.timeout Reader.real fields

/-- The settings as a record. -/
def toJson (style : Dump) (settings : Settings) : Json :=
  style.record
    [(Part.apiUrl, .str settings.apiUrl), (Part.tenant, .str settings.tenant),
     (Part.scenario, .str settings.scenario), (Part.assetBase, .str settings.assetBase),
     (Part.timeout, .num (.real settings.timeout))]

end Settings

end VisualNovel
