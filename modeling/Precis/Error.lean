import Precis.Text.Basic

/-!
What can go wrong, by cause.
-/

namespace Precis

inductive Error where
  | io (detail : Text)
  | extract (detail : Text)
  | config (detail : Text)

def Error.message : Error → Text
  | .io detail => "io error: ".toList ++ detail
  | .extract detail => "extract failed: ".toList ++ detail
  | .config detail => "invalid config: ".toList ++ detail

end Precis
