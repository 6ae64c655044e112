/-!
# Faults

Why an operation on a volume, or the start of a program, does not succeed.
-/

namespace CardKeeper

/-- Why an operation does not succeed. -/
inductive Fault where
  /-- Nothing is there. -/
  | notFound
  /-- A program's argument is longer than it can take. -/
  | argumentTooLong
  /-- A program file is not in a form that can be run. -/
  | notRunnable
  /-- The operation is not allowed. -/
  | denied
  /-- The entry is in use by the system itself. -/
  | busy
  /-- Something other than a folder stands where a folder is needed. -/
  | notDirectory
  /-- A folder stands where a file is needed. -/
  | isDirectory
  /-- A name is longer than a folder can hold, or a path longer than can be followed. -/
  | nameTooLong
  /-- Following the path leads through too many links. -/
  | tooManyLinks
  /-- A file that should hold text holds other bytes. -/
  | notText
  /-- A path holds a NUL byte. -/
  | nulInPath
  /-- The operation is asked for something that makes no sense. -/
  | invalid
  /-- A program's name or argument holds a NUL byte. -/
  | nulInArgument
  /-- The disk fails, for a reason that is told in these words. -/
  | device (text : String)
  deriving DecidableEq, Repr

/-- The words for a fault. -/
def Fault.message : Fault → String
  | .notFound => "No such file or directory (os error 2)"
  | .argumentTooLong => "Argument list too long (os error 7)"
  | .notRunnable => "Exec format error (os error 8)"
  | .denied => "Permission denied (os error 13)"
  | .busy => "Device or resource busy (os error 16)"
  | .notDirectory => "Not a directory (os error 20)"
  | .isDirectory => "Is a directory (os error 21)"
  | .invalid => "Invalid argument (os error 22)"
  | .nameTooLong => "File name too long (os error 36)"
  | .tooManyLinks => "Too many levels of symbolic links (os error 40)"
  | .notText => "stream did not contain valid UTF-8"
  | .nulInPath => "file name contained an unexpected NUL byte"
  | .nulInArgument => "nul byte found in provided data"
  | .device text => text

end CardKeeper
