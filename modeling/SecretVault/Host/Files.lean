import SecretVault.Host.Path

/-!
The files and folders of a host. Each lies at a place: the names of the folders on the way from the
root folder, and its own. A path that does not begin with a slash starts from the working folder.
-/

namespace SecretVault

/-- All files and folders by their places, and the place of the working folder. -/
structure FileTree where
  files : List (List CodePoints × Bytes)
  folders : List (List CodePoints)
  working : List CodePoints

/-- What a path leads to. -/
inductive Found where
  | file (content : Bytes)
  | folder
  | missing
  /-- The path, or a part of it, is too long to be looked up. -/
  | tooLong
  deriving DecidableEq

/-- The most bytes that the name of a file or folder has. -/
def longestName : Nat := 255

def longestPath : Nat := 4095

/-- The number of bytes by which the host knows a text. -/
def sizeOnHost (s : CodePoints) : Nat :=
  ((s.encode?).map List.length).getD 0

namespace FileTree

/-- What a name leads to where there is nothing of that name. -/
def absent (name : CodePoints) : Found :=
  if longestName < sizeOnHost name then .tooLong else .missing

/-- Goes down from a folder. Above the root folder is the root folder, and nothing is below a
file. -/
def walk (tree : FileTree) : List CodePoints → List CodePoints → Found
  | _, [] => .folder
  | here, part :: rest =>
    if part == "" || part == "." then tree.walk here rest
    else if part == ".." then tree.walk here.dropLast rest
    else
      let next := here ++ [part]
      if tree.folders.contains next then tree.walk next rest
      else
        match tree.files.find? (·.1 == next), rest with
        | some (_, content), [] => .file content
        | some _, _ => .missing
        | none, _ => absent part

/-- What a path leads to, unless no path can be so long. No path holds a null character, or a text
that has no bytes. -/
def guarded (text : CodePoints) (found : Found) : Found :=
  if text.contains .nul || !text.isEncodable then .missing
  else if longestPath < sizeOnHost text then .tooLong
  else found

/-- Where a path starts. -/
def startOf (tree : FileTree) (isAbsolute : Bool) : List CodePoints :=
  if isAbsolute then [] else tree.working

def find (tree : FileTree) (p : Path) : Found :=
  guarded p.text (tree.walk (tree.startOf p.isAbsolute) p.parts)

/-- What a path leads to as it is written, so that nothing follows a file, not even a slash. -/
def findAsWritten (tree : FileTree) (s : CodePoints) : Found :=
  if s.isEmpty then .missing
  else guarded s (tree.walk (tree.startOf (s.head? == some slash)) (splitSlash s))

/-- The place that a path names. -/
def placeOf (tree : FileTree) (p : Path) : List CodePoints :=
  tree.startOf p.isAbsolute ++ p.parts

/-- All folders on the way to a place. -/
def foldersTo (place : List CodePoints) : List (List CodePoints) :=
  (List.range place.length).map fun n => place.take n

/-- Writes a file, and makes the folders that it lies in. -/
def write (tree : FileTree) (p : Path) (content : Bytes) : FileTree :=
  let place := tree.placeOf p
  { tree with
    files := (place, content) :: tree.files.filter (·.1 != place)
    folders := tree.folders ++ (foldersTo place).filter fun folder =>
      !folder.isEmpty && !tree.folders.contains folder }

/-- Removes a file; its folders stay. -/
def delete (tree : FileTree) (p : Path) : FileTree :=
  { tree with files := tree.files.filter (·.1 != tree.placeOf p) }

end FileTree

end SecretVault
