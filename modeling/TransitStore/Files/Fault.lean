/-!
# Faults of files

What keeps a file from being read or written, and the system's words for it.
-/

namespace TransitStore

/-- What keeps a file from being read or written. -/
inductive FileFault where
  /-- There is no such file, or no directory to make it in. -/
  | missing
  /-- The path names a directory. -/
  | isDirectory
  /-- The path leads through a file. -/
  | notDirectory
  /-- The path names something without contents to map. -/
  | notMappable
  /-- The path or one of its names has too many bytes. -/
  | nameTooLong
  /-- The path has a zero byte. -/
  | zeroByte
  /-- Any other reason, in the system's words. -/
  | other (text : String)
deriving DecidableEq, Repr

/-- The system's words for a fault. -/
def FileFault.message : FileFault → String
  | .missing => "No such file or directory (os error 2)"
  | .isDirectory => "Is a directory (os error 21)"
  | .notDirectory => "Not a directory (os error 20)"
  | .notMappable => "No such device (os error 19)"
  | .nameTooLong => "File name too long (os error 36)"
  | .zeroByte => "file name contained an unexpected NUL byte"
  | .other text => text

/-- The fault of mapping a file, by the fault of reading it.  A directory can be
opened, but has nothing to map. -/
def FileFault.ofMapping : FileFault → FileFault
  | .isDirectory => .notMappable
  | fault => fault

end TransitStore
