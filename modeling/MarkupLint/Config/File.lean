import MarkupLint.Config.Reader
import MarkupLint.Files.FileTree

namespace MarkupLint

/-!
# Configuration files

Reading a configuration from a file fails when the file cannot be read as text
and when the text is no configuration.  What exactly is wrong with such a text is
worded by the reader of the notation; it depends on the text alone.
-/

/-- Why a configuration cannot be loaded. -/
inductive ConfigError where
  | unreadable (path : Path) (error : FileError)
  | malformed (text : List Char)
  deriving Repr, DecidableEq

namespace ConfigError

/-- The description of an error, given what the reader of the notation says of a text. -/
def message (refusal : List Char → String) : ConfigError → String
  | unreadable path error =>
      "Failed to read config file " ++ path.toString ++ ": " ++ error.message
  | malformed text => "Failed to parse config: " ++ refusal text

end ConfigError

namespace Config

/-- The configuration written in a text. -/
def parse (text : List Char) : Except ConfigError Config :=
  match parse? text with
  | some config => .ok config
  | none => .error (.malformed text)

/-- The configuration in a file. -/
def load (files : FileSystem) (path : Path) : Except ConfigError Config :=
  match files.readText path with
  | .ok text => parse text
  | .error error => .error (.unreadable path error)

end Config

end MarkupLint
