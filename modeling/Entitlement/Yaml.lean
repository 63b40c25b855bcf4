import Entitlement.Yaml.Document
import Entitlement.Yaml.Layout

/-!
YAML texts as settings files hold them: one document whose value is a setting.
-/

namespace Entitlement.Yaml

/-- The setting that a text holds. -/
def parse? (text : String) : Option Setting :=
  ((tokens? text).bind documentNode?).bind Node.toSetting?

end Entitlement.Yaml
