/-! # Errors of files

Why the content of a file cannot be had, in the words of the system.
-/

namespace NumberRules
set_option autoImplicit false

inductive FileError where
  | notFound
  | denied
  | notDirectory
  | isDirectory
  /-- A name in the path, or the path itself, is too long. -/
  | nameTooLong
  | notText
  | other (reason : String)
  deriving DecidableEq

def FileError.message : FileError → String
  | notFound => "No such file or directory (os error 2)"
  | denied => "Permission denied (os error 13)"
  | notDirectory => "Not a directory (os error 20)"
  | isDirectory => "Is a directory (os error 21)"
  | nameTooLong => "File name too long (os error 36)"
  | notText => "stream did not contain valid UTF-8"
  | other reason => reason

end NumberRules
