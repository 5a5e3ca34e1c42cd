/-
**Paths.**

A path is any sequence of bytes; slashes divide it into names.  An empty name and a dot lead nowhere and
two dots lead up, so not every path names a file.  The name of a compiled document is put together as
a text, so bytes of the source's name that are no text are replaced in it.

Main definitions:

* `Inlay.CommandLine.Path` — paths, with `ofText` and `text` between them and texts;
* `Inlay.CommandLine.Path.components` — what two ways to write one path have in common;
* `Inlay.CommandLine.Path.fileParts?` — the name of the file at a path, and the names before it;
* `Inlay.CommandLine.outputName`, `Inlay.CommandLine.outputPath` — the name and the path of a compiled
  document;
* `Inlay.CommandLine.mapPath` — the path of a position map.
-/
import Inlay.Snippet
import Inlay.Text.Utf8

set_option autoImplicit false

namespace Inlay.CommandLine

/-- The byte between the names of a path. -/
def slash : UInt8 := 0x2f

/-- The byte before an extension. -/
def dot : UInt8 := 0x2e

/-! ### Names -/

/-- A name on a path. -/
abbrev Name := List UInt8

namespace Name

/-- Whether a name leads nowhere: it is empty, or a dot. -/
def isIdle (name : Name) : Bool :=
  name == [] || name == [dot]

/-- The name that leads up. -/
def up : Name := [dot, dot]

/-- A name before and behind its last dot; a dot at the start divides nothing. -/
def splitExtension (name : Name) : Name × Option Name :=
  let back := name.reverse
  match (back.dropWhile (· != dot)).reverse with
  | [] | [_] => (name, none)
  | stem => (stem.dropLast, some (back.takeWhile (· != dot)).reverse)

end Name

/-- Names without those at their end that lead nowhere. -/
def dropIdle (names : List Name) : List Name :=
  (names.reverse.dropWhile Name.isIdle).reverse

/-! ### Paths -/

/-- A path to a file or a directory. -/
structure Path where
  bytes : List UInt8
  deriving DecidableEq, Repr

namespace Path

/-- The path that a text is. -/
def ofText (text : String) : Path :=
  ⟨Text.Utf8.encode text.toList⟩

/-- The text of a path; bytes that are no text are replaced. -/
def text (path : Path) : String :=
  Text.Utf8.ofBytes path.bytes

/-- The names between the slashes of a path. -/
def names (path : Path) : List Name :=
  path.bytes.splitOn slash

/-- The path of a name in a directory. -/
def inFolder (folders : List Name) (name : Name) : Path :=
  ⟨folders.flatMap (· ++ [slash]) ++ name⟩

/-- What names come to: all but the first count only if they lead somewhere. -/
def componentsOf : List Name → List Name
  | [] | [[]] => []
  | first :: rest => first :: rest.filter (!·.isIdle)

/-- What two ways to write one path have in common.  An empty name in front stands for the root. -/
def components (path : Path) : List Name :=
  componentsOf path.names

/-- The names before that of the file at a path, and its name.  A path that ends by leading up names no
file. -/
def fileParts? (path : Path) : Option (List Name × Name) :=
  match path.names.reverse.dropWhile Name.isIdle with
  | [] => none
  | name :: above => if name = Name.up then none else some (above.reverse, name)

/-- The name of the file at a path. -/
def fileName? (path : Path) : Option Name :=
  path.fileParts?.map Prod.snd

/-- The names on a path to a directory; a slash at its end adds none. -/
def folders (path : Path) : List Name :=
  if path.names.getLast? = some [] then path.names.dropLast else path.names

/-- The names on the path to the directory of a file.  Without a file it is the whole path. -/
def parentFolders (path : Path) : List Name :=
  match path.fileParts? with
  | some (first :: rest, _) => first :: dropIdle rest
  | some ([], _) => []
  | none => path.folders

end Path

/-! ### Compiled documents -/

/-- The name of a compiled document: the language comes before the extension. -/
def outputName (name : Name) (language : String) : Name :=
  let text :=
    match name.splitExtension with
    | (stem, some ending) =>
      Text.Utf8.ofBytes stem ++ "." ++ language ++ "." ++ Text.Utf8.ofBytes ending
    | (stem, none) => Text.Utf8.ofBytes stem ++ "." ++ language
  Text.Utf8.encode text.toList

/-- The names on the path to the directory of a compiled document, beside its source or elsewhere. -/
def outputFolders (path : Path) : Option Path → List Name
  | some directory => directory.folders
  | none => path.parentFolders

/-- The path of a compiled document. -/
def outputPath (path : Path) (directory : Option Path) (language : String) : Path :=
  .inFolder (outputFolders path directory) (outputName (path.fileName?.getD []) language)

/-- The path of a position map, from that of the document. -/
def mapPath (output : Path) (kind : ScriptKind) : Path :=
  .ofText (output.text ++ "." ++ kind.key ++ ".map")

end Inlay.CommandLine
