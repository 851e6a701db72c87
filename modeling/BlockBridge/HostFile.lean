import BlockBridge.SparseFile

/-!
# Files of the host

What a path of the host names: a file with its bytes, or nothing that can be
read.
-/

namespace BlockBridge

/-- Why the host refused an operation on a file. -/
inductive FileFault where
  | notFound
  | permissionDenied
  | unexpectedEnd
  | isDirectory
  | storageFull
  deriving DecidableEq

namespace FileFault

/-- The sentence shown for a refusal of the host. -/
def message : FileFault → String
  | notFound => "entity not found"
  | permissionDenied => "permission denied"
  | unexpectedEnd => "unexpected end of file"
  | isDirectory => "is a directory"
  | storageFull => "no storage space"

/-- The refusal by name. -/
def detail : FileFault → String
  | notFound => "NotFound"
  | permissionDenied => "PermissionDenied"
  | unexpectedEnd => "UnexpectedEof"
  | isDirectory => "IsADirectory"
  | storageFull => "StorageFull"

end FileFault

/-- What a path names. -/
inductive HostFile where
  /-- Nothing that the host lets one read. -/
  | refused (fault : FileFault)
  /-- A file that can be read. -/
  | contents (file : SparseFile)
  deriving DecidableEq

namespace HostFile

/-- The text of a file that holds nothing but text. -/
def text? : HostFile → Option String
  | refused _ => none
  | contents file => String.fromUTF8? ⟨file.toBytes.toArray⟩

end HostFile

end BlockBridge
