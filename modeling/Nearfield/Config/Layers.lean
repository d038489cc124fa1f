/-
# Layers of configuration

The defaults lie at the bottom, the document of the configuration file over
them, and the environment variables on top.

Key definition: `Settings.load?`.
-/
import Nearfield.Config.Settings
import Nearfield.Config.Toml
import Nearfield.Config.Variables
import Nearfield.Config.Wrapped

namespace Nearfield
namespace Config

/-- The document of all layers. A file that is not there counts as empty. -/
def layers? (file : Option String) (environment : List (String × String)) : Option Document := do
  let written ← (← Toml.read? (file.getD "")).unwrapInside?
  return (Settings.default.toDocument.merge written).merge (Variables.document environment)

/-- The settings of all layers. -/
def Settings.load? (file : Option String) (environment : List (String × String)) :
    Option Settings := do
  Settings.ofDocument? (← layers? file environment)

end Config
end Nearfield
