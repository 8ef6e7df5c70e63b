import BayeuxChat.Settings.Error
import BayeuxChat.Text.Split

/-!
# A folder with a settings file

The files that a path can lead to when the working directory holds nothing but,
perhaps, a settings file.  Paths are followed component by component as the
system does, and the first component that cannot be followed is the fault
reported.
-/

namespace BayeuxChat

/-- A directory that holds at most one file, the settings. -/
structure Folder where
  settings : Option ByteArray

namespace Folder

def settingsName : String := "config.json"

/-- The longest name that the system accepts, in bytes. -/
def longestName : Nat := 255

/-- The longest path that the system accepts, in bytes. -/
def longestPath : Nat := 4095

/-- Where a path has led to. -/
inductive Place where
  | here
  /-- Some directory further up, of which nothing is known but its own parents. -/
  | above
  | file (content : ByteArray)

def follow (folder : Folder) : Place → List String → Except FileFault Place
  | place, [] => .ok place
  | .file _, _ :: _ => .error .notDirectory
  | place, name :: rest =>
    if name = "" ∨ name = "." then follow folder place rest
    else if name = ".." then follow folder .above rest
    else if longestName < name.utf8ByteSize then .error .nameTooLong
    else
      match place, folder.settings with
      | .here, some content =>
        if name = settingsName then follow folder (.file content) rest
        else .error .noSuchFile
      | _, _ => .error .noSuchFile

/-- The bytes of the file at `path`. -/
def read (folder : Folder) (path : String) : Except FileFault ByteArray :=
  let cs := path.toList
  if '\x00' ∈ cs then .error .nulInName
  else if path = "" then .error .noSuchFile
  else if longestPath < path.utf8ByteSize then .error .nameTooLong
  else
    let start : Place := if cs.head? = some '/' then .above else .here
    match follow folder start ((Text.pieces '/' cs).map String.ofList) with
    | .error fault => .error fault
    | .ok (.file content) => .ok content
    | .ok _ => .error .isDirectory

end Folder
end BayeuxChat
