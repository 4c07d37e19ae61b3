import LogTagger.Config.Loading

/-!
# Directories

A directory with its files, and what is found at a path that starts from it. A path is followed name
by name: an empty name and a dot stay, two dots go back to the directory above, any other name is
looked up. Only a directory can be gone through. Paths and names have a greatest length, and no path
holds a NUL.
-/

namespace LogTagger

/-- A file or a directory. -/
inductive FileNode where
  /-- A file with its octets. -/
  | file (content : ByteArray)
  /-- A directory with what it holds, by name. -/
  | directory (entries : List (String × FileNode))

namespace FileNode

/-- What is found where a path ends. -/
def content : FileNode → FileContent
  | file octets => .octets octets
  | directory _ => .unreadable .isADirectory

/-- The greatest number of octets of a name. -/
def nameLimit : Nat := 255

/-- The greatest number of octets of a path. -/
def pathLimit : Nat := 4095

/-- What is found by following names from a node, with the directories above it, the nearest first.
Above the last of them there are directories in which nothing is found. -/
def follow (above : List FileNode) (here : FileNode) : List String → FileContent
  | [] => here.content
  | name :: rest =>
    match here with
    | file _ => .unreadable .notADirectory
    | directory entries =>
      if name = "" ∨ name = "." then follow above here rest
      else if name = ".." then
        match above with
        | [] => follow [] (.directory []) rest
        | parent :: others => follow others parent rest
      else if nameLimit < name.utf8ByteSize then .unreadable .nameTooLong
      else
        match entries.lookup name with
        | none => .missing
        | some node => follow (here :: above) node rest

/-- What is found at a path that starts from a directory. Nothing is found at the empty path, nor
below the root of the file system. -/
def contentAt (start : FileNode) (path : String) : FileContent :=
  if path.contains '\x00' then .unreadable .invalidPath
  else if path.isEmpty then .missing
  else if pathLimit < path.utf8ByteSize then .unreadable .nameTooLong
  else follow [] (if path.startsWith "/" then .directory [] else start) (path.splitOn "/")

end FileNode

end LogTagger
