import MemberMapping.CommandLine
import MemberMapping.Table

/-!
A folder of files as a value, and runs of commands in it.
-/

namespace MemberMapping.CommandLine

/-- The files of a folder by their paths from it, with their texts; a file that is no text has
none. -/
abbrev Folder := Table (Option String)

namespace Folder

def pieces (path : String) : List String :=
  path.splitOn "/"

/-- The path of a file from the folder, without detours; none for what is no file within it. -/
def filePath? (path : String) : Option String :=
  let steps := pieces path
  match steps.getLast? with
  | none | some "" | some "." => none
  | some _ =>
    if steps.head? == some "" || steps.contains ".." then none
    else some ("/".intercalate (steps.filter fun step => step != "" && step != "."))

def isFolder (folder : Folder) (path : String) : Bool :=
  folder.keys.any fun key => (path ++ "/").toList.isPrefixOf key.toList

def hasPlaceFor (folder : Folder) (path : String) : Bool :=
  match (pieces path).reverse with
  | _ :: outer :: outers => folder.isFolder ("/".intercalate (outer :: outers).reverse)
  | _ => true

def read (folder : Folder) (path : String) : Option String :=
  (filePath? path).bind fun file => (folder.get? file).join

/-- The folder with the text of a file set, where that is possible. -/
def write? (folder : Folder) (path text : String) : Option Folder :=
  match filePath? path with
  | none => none
  | some file =>
    if folder.hasPlaceFor file && !folder.isFolder file then some (folder.set file (some text))
    else none

def access : FileAccess (StateM Folder) where
  read path := do return (← get).read path
  write path text := do
    match (← get).write? path text with
    | some folder => set folder; return true
    | none => return false

/-- The files whose texts are not those of an earlier state. -/
def changes (before after : Folder) : Table String :=
  after.filterMap fun (path, text) =>
    match text with
    | some text => if before.get? path == some (some text) then none else some (path, text)
    | none => none

end Folder

end MemberMapping.CommandLine
