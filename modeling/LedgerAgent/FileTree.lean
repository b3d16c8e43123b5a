/-
Module: LedgerAgent.FileTree
Purpose: Folders and files as a value, and what a path leads to.
Main exports: FileFault, FileTree, FileTree.read
-/
import LedgerAgent.Text.Bytes
import LedgerAgent.Text.Split

namespace LedgerAgent

/-- Why a file cannot be read. -/
inductive FileFault where
  | missing
  | forbidden
  | behindFile
  | folder
  | longName
  | nulInPath
  | other (reason : String)
deriving Repr, Inhabited, DecidableEq

def FileFault.message : FileFault → String
  | .missing => "No such file or directory (os error 2)"
  | .forbidden => "Permission denied (os error 13)"
  | .behindFile => "Not a directory (os error 20)"
  | .folder => "Is a directory (os error 21)"
  | .longName => "File name too long (os error 36)"
  | .nulInPath => "file name contained an unexpected NUL byte"
  | .other reason => reason

/-- A file with its contents, or a folder with what is inside, by name. -/
inductive FileTree where
  | file (contents : List UInt8)
  | folder (inside : List (String × FileTree))

namespace FileTree

/-- The most bytes that a name may have. -/
def nameLimit : Nat := 255

/-- The most bytes that a path may have. -/
def pathLimit : Nat := 4095

/-- Walk from `place` along the names of a path.  The folders above `place` are `above`, the
nearest first; above the outermost there is nothing, and two dots stay there. -/
def walk (above : List FileTree) (place : FileTree) : List String → Except FileFault FileTree
  | [] => .ok place
  | name :: rest =>
    match place with
    | .file _ => .error .behindFile
    | .folder inside =>
      if name = "" || name = "." then walk above place rest
      else if name = ".." then
        match above with
        | [] => walk [] place rest
        | upper :: above => walk above upper rest
      else if name.utf8ByteSize > nameLimit then .error .longName
      else
        match inside.lookup name with
        | none => .error .missing
        | some next => walk (place :: above) next rest

/-- The contents of the file that a path leads to.  A path without a slash at its front starts
in the folder `here`, which lies in the folders `above`, the nearest first. -/
def read (above : List FileTree) (here : FileTree) (path : String) :
    Except FileFault (List UInt8) := do
  if path.toList.contains '\x00' then throw .nulInPath
  if path = "" then throw .missing
  if path.utf8ByteSize > pathLimit then throw .longName
  let names := (Text.fields '/' path.toList).map String.ofList
  let place ←
    if "/".isPrefixOf path then walk [] (above.getLast?.getD here) names
    else walk above here names
  match place with
  | .file contents => return contents
  | .folder _ => throw .folder

end FileTree

end LedgerAgent
