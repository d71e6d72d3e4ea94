import WasmHost.Host.Error

/-!
# Loading the artifact

The artifact is a file of bytes at a path; what the bytes mean is not the loader's concern. A file
is opened and then read to its end, and either can fail. The file system is given as a function from
paths.
-/

namespace WasmHost

/-- The bytes of a module as they were read. -/
structure Artifact where
  bytes : ByteArray

namespace Artifact

def size (artifact : Artifact) : Nat :=
  artifact.bytes.size

def isEmpty (artifact : Artifact) : Bool :=
  artifact.size = 0

def describe (artifact : Artifact) : String :=
  let bytes := ", ".intercalate (artifact.bytes.data.toList.map toString)
  "BinaryModule \x7b bytes: [" ++ bytes ++ "] \x7d"

/-- The path of a file in a directory; an absolute name stands for itself. -/
def pathIn (directory fileName : String) : String :=
  if fileName.startsWith "/" then fileName
  else if directory.endsWith "/" then directory ++ fileName
  else directory ++ "/" ++ fileName

/-- The error that reports a file that could not be opened. -/
def openError (path : String) (source : IoError) : Error :=
  if source.isNotFound then .artifactNotFound path source else .artifactUnreadable path source

end Artifact

/-- A file system: what opening the file at a path gives, and then what reading it to its end
gives. -/
abbrev Files := String → Except IoError (Except IoError ByteArray)

/-- The content of the file at a path. Only a file that cannot be opened can be reported as
missing. -/
def Files.read (files : Files) (path : String) : Except Error ByteArray :=
  match files path with
  | .error source => .error (Artifact.openError path source)
  | .ok (.error source) => .error (.artifactUnreadable path source)
  | .ok (.ok bytes) => .ok bytes

end WasmHost
