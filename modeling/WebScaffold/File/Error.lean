/-!
# File errors

Why an operation on files fails, with the wording of each reason.
-/

namespace WebScaffold

inductive FileError where
  | missing
  | busy
  | alreadyThere
  | notDirectory
  | isDirectory
  | invalidArgument
  | nameTooLong
  /-- A path with a NUL character in it. -/
  | nulInPath
  /-- A path that would leave the directory it is meant for. -/
  | outside
  | notUtf8
deriving DecidableEq, Repr

def FileError.message : FileError → String
  | missing => "No such file or directory (os error 2)"
  | busy => "Device or resource busy (os error 16)"
  | alreadyThere => "File exists (os error 17)"
  | notDirectory => "Not a directory (os error 20)"
  | isDirectory => "Is a directory (os error 21)"
  | invalidArgument => "Invalid argument (os error 22)"
  | nameTooLong => "File name too long (os error 36)"
  | nulInPath => "file name contained an unexpected NUL byte"
  | outside => "path leaves the destination directory"
  | notUtf8 => "stream did not contain valid UTF-8"

end WebScaffold
