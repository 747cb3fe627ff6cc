import MarkupLint.Rule
import MarkupLint.Text.Lowercase

namespace MarkupLint

/-!
# Legacy names of the service file

Services used to be registered in an admin file of their own.  A line that
mentions one of its names is reported, unless it mentions the configuration file
of the admin bundle, whose name ends the same way.
-/

namespace LegacyAdminFile

/-- A legacy file name and the longer name that excuses it. -/
structure LegacyName where
  legacy : String
  allowed : String
  deriving Repr, DecidableEq

/-- The legacy names, in the order in which they are looked for. -/
def legacyNames : List LegacyName :=
  [⟨"admin.yml", "sonata_admin.yml"⟩, ⟨"admin.yaml", "sonata_admin.yaml"⟩]

/-- What is reported where a legacy name is used. -/
def message (legacy : String) : String :=
  "Please use \"services.yaml\" instead of \"" ++ legacy ++ "\""

/-- Whether a text mentions the legacy name and not the longer one. -/
def LegacyName.isMisusedIn (name : LegacyName) (text : List Char) : Bool :=
  occursIn name.legacy.toList text && !occursIn name.allowed.toList text

/-- Report the first legacy name that a line misuses, in any letter case. -/
def check (document : Document) (index : Nat) : Option String :=
  match document.get? index with
  | none => none
  | some line =>
      (legacyNames.find? (·.isMisusedIn (lowercase line.text))).map (message ·.legacy)

/-- The rule against the legacy names. -/
def rule : Rule where
  name := "no-admin-yaml"
  code := "RST002"
  description := "Forbids \"admin.yml\" / \"admin.yaml\" in favour of \"services.yaml\""
  groups := [.sonata]
  check := check

end LegacyAdminFile

end MarkupLint
