import LiteralPatch.Files.Utf8

/-!
# Why an operation on files fails

Each cause has one wording, which every report of it ends in.
-/

namespace LiteralPatch

/-- Why an operation on files fails. -/
inductive FileFault where
  | notFound
  | notDirectory
  | isDirectory
  /-- A place that is in use, such as the working directory. -/
  | busy
  /-- A file that was to be read as text does not hold text. -/
  | notText
  /-- Bytes that were read are no text, from the given place on. -/
  | malformed (fault : Utf8.Fault)
  /-- A directory that cannot be listed because it is not there. -/
  | unlisted (path : String)
deriving DecidableEq, Repr

namespace FileFault

/-- The wording for something that is not there. -/
def absence : String := "No such file or directory (os error 2)"

def message : FileFault → String
  | notFound => absence
  | notDirectory => "Not a directory (os error 20)"
  | isDirectory => "Is a directory (os error 21)"
  | busy => "Device or resource busy (os error 16)"
  | notText => "stream did not contain valid UTF-8"
  | malformed fault => fault.message
  | unlisted path => "IO error for operation on " ++ path ++ ": " ++ absence

end FileFault
end LiteralPatch
