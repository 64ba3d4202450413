import HttpRouting.Json.Parser
import HttpRouting.Settings.Options

/-! # Options from files

A file tree holds texts and directories below the directory that a program works in. A path is walked
name by name, and every name but the last must be that of a directory. A file that is missing gives no
options; anything else that keeps it from being read is a fault of the file system.
-/

namespace HttpRouting

open Text

/-- The texts and directories below the working directory, each by the names on its path. -/
structure FileTree where
  files : List (List String × String) := []
  directories : List (List String) := []

/-- What a path leads to. -/
inductive FileNode where
  | text (content : String)
  | directory
  | missing

/-- Why a path cannot be read. -/
inductive FileFault where
  | isDirectory
  | notDirectory
deriving DecidableEq, Repr

def FileFault.code : FileFault → String
  | .isDirectory => "EISDIR"
  | .notDirectory => "ENOTDIR"

namespace FileTree

def names (path : String) : List String :=
  (pieces '/' path).filter (· ≠ ".")

def ofPaths (files : List (String × String)) (directories : List String) : FileTree where
  files := files.reverse.map fun file => (names file.1, file.2)
  directories := directories.map names

/-- What the names lead to; a directory that holds something is there without being listed. -/
def node (tree : FileTree) (names : List String) : FileNode :=
  match tree.files.lookup names with
  | some content => .text content
  | none =>
    if names.isEmpty || tree.directories.any (names.isPrefixOf ·) ||
        tree.files.any fun file => names.isPrefixOf file.1 then .directory
    else .missing

/-- Whether a name leads nowhere else or upwards. -/
def isDots (name : String) : Bool :=
  name == "." || name == ".."

/-- What lies outside the working directory: the directories above it, and nothing else. -/
def outside (rest : List String) : FileNode :=
  if rest.all isDots then .directory else .missing

def walk (tree : FileTree) : List String → List String → Except FileFault FileNode
  | place, [] => .ok (tree.node place)
  | place, name :: rest =>
    match tree.node place with
    | .text _ => .error .notDirectory
    | .missing => .ok .missing
    | .directory =>
      if name = "." then walk tree place rest
      else if name = ".." then
        if place.isEmpty then .ok (outside rest) else walk tree place.dropLast rest
      else walk tree (place ++ [name]) rest

/-- The text at a path, unless it is missing. A path that ends with a slash must be a directory's. -/
def read? (tree : FileTree) (path : String) : Except FileFault (Option String) := do
  let steps := pieces '/' path ++ if endsWith "/" path then ["."] else []
  match ← if startsWith "/" path then pure (outside steps) else tree.walk [] steps with
  | .text content => return some content
  | .directory => throw .isDirectory
  | .missing => return none

/-- The options in the file at a path, unless it is missing. -/
def options? (tree : FileTree) (path : String) : Outcome (Option SettingsOptions) :=
  match tree.read? path with
  | .error fault => .error (.system fault.code)
  | .ok none => .ok none
  | .ok (some content) =>
    match Json.parse? content with
    | none => .error (.settings ⟨path, .malformedJson⟩)
    | some value => do
      return some (← Outcome.lift .settings (SettingsOptions.read path value))

/-- The options in the first file of a list that is there. -/
def firstOptions (tree : FileTree) : List String → Outcome SettingsOptions
  | [] => .ok {}
  | path :: rest => do
    match ← tree.options? path with
    | some options => return options
    | none => firstOptions tree rest

end FileTree

end HttpRouting
