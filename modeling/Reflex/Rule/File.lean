import Reflex.File.Replace
import Reflex.Rule.Load

/-!
# Rule files

`LoadedRules.load` reads the rules of a file, and `RuleSet.save` writes rules as a design tree.
-/

namespace Reflex

variable {m : Type → Type} [Monad m] [MonadFiles m]

/-- The rules of a file. -/
def LoadedRules.load (path : String) : Attempt m LoadedRules := do
  let text ← Attempt.file ("read rules " ++ path) (MonadFiles.readText path)
  let document ← Attempt.within ("parse rules " ++ path)
    (Attempt.ofExcept .json (Json.readValue text))
  Attempt.within ("load rules " ++ path) (Attempt.ofExcept .rules (LoadedRules.ofDocument document))

/-- The text of a rule file. -/
def RuleSet.text (rules : RuleSet) : String :=
  rules.toDesign.toValue.pretty ++ "\n"

/-- Writes rules to a file. -/
def RuleSet.save (path : String) (rules : RuleSet) : Attempt m Unit :=
  replaceFile "rules" (FilePath.directory path) path "json" rules.text

end Reflex
