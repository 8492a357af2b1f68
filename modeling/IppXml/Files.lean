import IppXml.Text.Bytes

/-! Files that a command reads and creates. -/

namespace IppXml

/-- Access to files. What fails is told in the words of the system. -/
structure FileAccess where
  read : Bytes → Except Bytes Bytes
  create : Bytes → Except Bytes Unit

/-- The files of a directory without further directories in it. -/
structure Directory where
  files : List (Bytes × Bytes)
deriving DecidableEq

namespace Directory

/-- The name of the directory itself. -/
def self : Bytes := "."

/-- The words for a file that does not exist. -/
def missing (name : Bytes) : Bytes :=
  "open " ++ name ++ ": no such file or directory"

/-- The content of a file. -/
def read (dir : Directory) (name : Bytes) : Except Bytes Bytes :=
  if name = self then .error "read .: is a directory"
  else
    match dir.files.lookup name with
    | some content => .ok content
    | none => .error (missing name)

/-- Whether a file can be created. One in a directory that does not exist cannot. -/
def create (name : Bytes) : Except Bytes Unit :=
  if name = self then .error "open .: is a directory"
  else if name.contains 0x2F then .error (missing name)
  else .ok ()

/-- The access to the files of the directory. -/
def access (dir : Directory) : FileAccess :=
  { read := dir.read, create }

/-- Those of the saved files that the directory did not hold with this content. -/
def changes (dir : Directory) (saved : List (Bytes × Bytes)) : List (Bytes × Bytes) :=
  saved.filter fun (name, content) => dir.files.lookup name ≠ some content

end Directory

end IppXml
