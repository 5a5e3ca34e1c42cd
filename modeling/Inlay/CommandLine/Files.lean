/-
**Files.**

The command line reads and writes files through three operations, so that it can work on the files of
the machine as well as on a store that is a plain value.

Main definitions:

* `Inlay.CommandLine.Files` — reading, writing and making directories;
* `Inlay.CommandLine.Store`, `Inlay.CommandLine.Store.files` — files as a value;
* `Inlay.CommandLine.Store.resolve` — the place that a path leads to.
-/
import Inlay.CommandLine.Path

set_option autoImplicit false

namespace Inlay.CommandLine

/-- What the command line does with files. -/
structure Files (m : Type → Type) where
  /-- The text of a file, if there is one. -/
  read : Path → m (Option String)
  /-- Writes a file, if that is possible. -/
  write : Path → String → m Bool
  /-- Makes a directory and those above it, if that is possible. -/
  makeDirectory : Path → m Bool

/-! ### Stores -/

/-- What a file of a store holds. -/
inductive Content where
  | text (text : String)
  /-- Bytes that are no text. -/
  | binary (bytes : List Nat)
  deriving DecidableEq, Repr

/-- Where a file or a directory is, by the names on the way from the root. -/
abbrev Place := List Name

namespace Store

/-- The working directory, unless another is given. -/
def defaultHome : Place := (Path.ofText "home/work").names

/-- The place that swallows what is written to it. -/
def nullDevice : Place := (Path.ofText "dev/null").names

end Store

/-- Files and directories. -/
structure Store where
  contents : List (Place × Content) := []
  directories : List Place := []
  /-- The working directory. -/
  home : Place := Store.defaultHome
  deriving DecidableEq, Repr

namespace Store

/-- Whether there is a directory at a place: the working directory, one that was made, one that holds a
file, or one that is above these. -/
def isDirectory (store : Store) (place : Place) : Bool :=
  (store.home :: nullDevice.dropLast :: store.directories).any (fun made => place.isPrefixOf made) ||
    store.contents.any fun (file, _) => place.isPrefixOf file && place.length < file.length

/-- Whether there is a file at a place. -/
def isFile (store : Store) (place : Place) : Bool :=
  place == nullDevice || store.contents.any fun (file, _) => file == place

/-- The place that a name leads to from a directory; nothing is above the root. -/
def descend (place : Place) (name : Name) : Place :=
  if name.isIdle then place else if name = Name.up then place.dropLast else place ++ [name]

/-- The place that names lead to; all but the last must be directories. -/
def walk (store : Store) (place : Place) : List Name → Option Place
  | [] => some place
  | name :: rest => if store.isDirectory place then store.walk (descend place name) rest else none

/-- Where names lead from: an empty one in front stands for the root. -/
def start (store : Store) : List Name → Place
  | [] :: _ => []
  | _ => store.home

/-- The place that a path leads to. -/
def resolve (store : Store) (path : Path) : Option Place :=
  store.walk (store.start path.names) path.names

/-- The text of a file. -/
def read (store : Store) (path : Path) : Option String :=
  match store.resolve path with
  | some place =>
    if store.isDirectory place then none
    else if place = nullDevice then some ""
    else
      match store.contents.lookup place with
      | some (.text text) => some text
      | _ => none
  | none => none

/-- Puts a text at a place. -/
def put (store : Store) (place : Place) (text : String) : Store :=
  if place = nullDevice then store
  else if store.isFile place then
    { store with
      contents := store.contents.map fun entry =>
        if entry.1 == place then (place, .text text) else entry }
  else { store with contents := store.contents ++ [(place, .text text)] }

/-- The store after a file is written; its directory must be there. -/
def write (store : Store) (path : Path) (text : String) : Option Store :=
  match store.resolve path with
  | some place =>
    if store.isDirectory place || !store.isDirectory place.dropLast then none
    else some (store.put place text)
  | none => none

/-- The store with a directory at every place that names lead to. -/
def makeFrom (store : Store) (place : Place) : List Name → Option Store
  | [] => some store
  | name :: rest =>
    let next := descend place name
    if store.isFile next then none
    else
      let made := if store.isDirectory next then store
        else { store with directories := store.directories ++ [next] }
      made.makeFrom next rest

/-- The store with a directory and those above it. -/
def makeDirectory (store : Store) (path : Path) : Option Store :=
  store.makeFrom (store.start path.names) path.names

/-- Does what can be done to the store, and says whether it could. -/
def attempt (change : Store → Option Store) : StateM Store Bool := fun store =>
  match change store with
  | some next => (true, next)
  | none => (false, store)

/-- The operations on a store that is a value. -/
def files : Files (StateM Store) where
  read path := fun store => (store.read path, store)
  write path text := attempt fun store => store.write path text
  makeDirectory path := attempt fun store => store.makeDirectory path

/-! ### Files below the working directory -/

/-- The names on the way to a file, from its path below the default working directory. -/
def namesOf (path : String) : Place :=
  defaultHome ++ (Path.ofText path).names

/-- The path of a place from the working directory, if it is below it. -/
def pathOf (store : Store) (place : Place) : Option String :=
  if store.home.isPrefixOf place then
    some (Path.text ⟨[slash].intercalate (place.drop store.home.length)⟩)
  else none

/-- The texts below the working directory that another store does not have. -/
def changes (before after : Store) : List (String × String) :=
  after.contents.filterMap fun (place, content) =>
    match content with
    | .text text =>
      if before.contents.lookup place == some content then none
      else (after.pathOf place).map (·, text)
    | .binary _ => none

end Store

end Inlay.CommandLine
