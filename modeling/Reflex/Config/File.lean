import Reflex.File.Replace
import Reflex.Toml.Reader

/-!
# Configuration files

`Config.load` reads a configuration file; without the file the usual configuration is in force.
`Config.save` writes one. Both refuse a configuration that cannot be used.
-/

namespace Reflex.Config

variable {m : Type → Type} [Monad m] [MonadFiles m]

/-- Where the configuration is looked for if nothing else is said. -/
def defaultPath : String := "actions.toml"

/-- The configuration that a text stands for. -/
def parse (text : String) : Attempt m Config :=
  Attempt.ofOption .toml ((Toml.read? text).bind ofDatum?)

/-- Reads a configuration file. -/
def load (path : String) : Attempt m Config := do
  if ← (MonadFiles.pathExists path : m Bool) then
    let text ← Attempt.file ("read " ++ path) (MonadFiles.readText path)
    let config ← Attempt.within ("parse " ++ path) (parse text)
    Attempt.within ("validate " ++ path) (Attempt.ofExcept .config config.check)
    return config
  else return default

/-- Writes a configuration file. -/
def save (path : String) (config : Config) : Attempt m Unit := do
  Attempt.ofExcept .config config.check
  replaceFile "config" (FilePath.directory path) path "toml" config.text

end Reflex.Config
