/-!
# Folders

What a path leads to: a folder, or a file with its bytes. A folder held in memory answers for the
paths that start in it. A path is walked part by part, and each step starts from a folder, also
the step back out of one.
-/

namespace BpmnAudit

/-- What a path leads to. -/
inductive Entry where
  | folder
  | file (bytes : List UInt8)
  deriving DecidableEq, Repr

/-- A folder in memory: its files and folders by their paths. -/
structure Folder where
  files : List (String × List UInt8) := []
  folders : List String := []

/-- Where a walk along a path stands. -/
inductive Standpoint where
  /-- In the folder that these names lead to, the last name first. -/
  | inside (names : List String)
  /-- In a folder around the first one; of what it holds nothing is known. -/
  | around
  deriving DecidableEq, Repr

namespace Folder

/-- The names along the path of what a folder holds, the last name first. -/
def names (path : String) : List String :=
  ((path.splitOn "/").filter fun part => part != "" && part != ".").reverse

/-- What lies at the end of some names, the last name first. -/
def held (folder : Folder) (ns : List String) : Option Entry :=
  match folder.files.find? (names ·.1 == ns) with
  | some (_, bytes) => some (.file bytes)
  | none =>
    let liesIn (path : String) : Bool := ns.isSuffixOf (names path)
    if folder.folders.any liesIn || folder.files.any (liesIn ·.1) then some .folder else none

/-- Walks along the parts of a path. A file ends a path. -/
def walk (folder : Folder) : Standpoint → List String → Option Entry
  | _, [] => some .folder
  | here, part :: rest =>
    if part = "" ∨ part = "." then folder.walk here rest
    else if part = ".." then
      match here with
      | .inside (_ :: ns) => folder.walk (.inside ns) rest
      | .inside [] | .around => folder.walk .around rest
    else
      match here with
      | .around => none
      | .inside ns =>
        match folder.held (part :: ns) with
        | none => none
        | some .folder => folder.walk (.inside (part :: ns)) rest
        | some (.file bytes) => if rest.isEmpty then some (.file bytes) else none

def entryAt (folder : Folder) (path : String) : Option Entry :=
  if path = "" then none
  else folder.walk (if path.startsWith "/" then .around else .inside []) (path.splitOn "/")

end Folder

end BpmnAudit
