import MarkupLint.Text.Search
import MarkupLint.Text.Utf8

namespace MarkupLint

/-!
# Names and paths

The name of a file is a sequence of bytes.  Most names are texts, but nothing makes
them so: a name that is no text can only be shown with replacement characters, and
no pattern describes it.

A path keeps its bytes as they were given, since they are shown and matched.  Its
names are what it means: an empty name and a single dot lead nowhere.
-/

/-- The name of a file or of a directory. -/
structure FileName where
  bytes : List UInt8
  deriving Repr, DecidableEq

namespace FileName

/-- The name written in a string. -/
def ofString (text : String) : FileName :=
  ⟨Utf8.encode text.toList⟩

instance : Coe String FileName :=
  ⟨ofString⟩

/-- The byte of a dot. -/
def dot : UInt8 := 0x2E

/-- Whether the name leads nowhere, as the empty one and a single dot do. -/
def isIdle (name : FileName) : Bool :=
  name.bytes.isEmpty || name.bytes == [dot]

/-- Whether the name leads upwards. -/
def isParent (name : FileName) : Bool :=
  name.bytes == [dot, dot]

/-- Whether the name marks a hidden entry. -/
def isHidden (name : FileName) : Bool :=
  name.bytes.head? == some dot

/-- The part of a name after its last dot, unless the dot comes first. -/
def extension? (name : FileName) : Option FileName :=
  match (splitAtEach dot name.bytes).reverse with
  | last :: between :: [] => if between.isEmpty then none else some ⟨last⟩
  | last :: _ :: _ => some ⟨last⟩
  | _ => none

end FileName

/-- A path as it was given. -/
structure Path where
  bytes : List UInt8
  deriving Repr, DecidableEq

namespace Path

/-- The path written in a text. -/
def ofText (text : List Char) : Path :=
  ⟨Utf8.encode text⟩

/-- The path written in a string. -/
def ofString (text : String) : Path :=
  ofText text.toList

instance : Coe String Path :=
  ⟨ofString⟩

/-- The text of a path, if it is one. -/
def text? (path : Path) : Option (List Char) :=
  Utf8.decode? path.bytes

/-- A path as it is shown; what is no text is replaced. -/
def toString (path : Path) : String :=
  String.ofList (Utf8.decodeLossy path.bytes)

/-- The byte between the names of a path. -/
def slash : UInt8 := 0x2F

/-- Whether the path starts at the root of the file system. -/
def isAbsolute (path : Path) : Bool :=
  path.bytes.head? == some slash

/-- The pieces between the slashes of a path, empty ones included. -/
def pieces (path : Path) : List FileName :=
  (splitAtEach slash path.bytes).map FileName.mk

/-- The names of a path, in order. -/
def names (path : Path) : List FileName :=
  path.pieces.filter (!·.isIdle)

/-- A path below a base; an absolute path replaces the base. -/
def join (base path : Path) : Path :=
  if path.isAbsolute || base.bytes.isEmpty then
    path
  else if base.bytes.getLast? = some slash then
    ⟨base.bytes ++ path.bytes⟩
  else
    ⟨base.bytes ++ slash :: path.bytes⟩

/-- A path made absolute; without a working directory only an absolute one can be. -/
def from? (workingDirectory : Option Path) (path : Path) : Option Path :=
  if path.isAbsolute then
    some path
  else
    workingDirectory.map (·.join path)

/-- The path that names make up, with slashes between them. -/
def ofNames (names : List FileName) : Path :=
  ⟨joinWith [slash] (names.map FileName.bytes)⟩

/-- The path of names below a base. -/
def below (base : Path) (names : List FileName) : Path :=
  if names.isEmpty then base else base.join (ofNames names)

/-- The last name of a path, unless it leads upwards. -/
def fileName? (path : Path) : Option FileName :=
  path.names.getLast?.filter (!·.isParent)

/--
The bytes of a folder without the slashes and single dots at its end, given in
reverse; the root and a leading dot are kept.
-/
def trimFolder : List UInt8 → List UInt8
  | [] => []
  | byte :: rest =>
      if byte = slash then
        if rest.isEmpty then [slash] else trimFolder rest
      else if byte = FileName.dot ∧ rest.head? = some slash then
        trimFolder rest
      else
        byte :: rest

/-- The folder of a path that ends in a name. -/
def folder (path : Path) : Path :=
  ⟨(trimFolder (path.bytes.reverse.dropWhile (· != slash))).reverse⟩

end Path

end MarkupLint
