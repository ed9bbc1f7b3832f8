/-!
# Refusals of the operating system

The reasons for which a file or a piece of memory cannot be read, with the words and numbers that
the system has for them.
-/

namespace ByteScan

/-- What the operating system says when it refuses. -/
inductive SystemError where
  /-- There is nothing of that name. -/
  | notFound
  /-- Something that others may read, but not this program. -/
  | permissionDenied
  /-- An address that cannot be read. -/
  | badAddress
  /-- Something that cannot be mapped. -/
  | noDevice
  /-- A file in the place of a directory. -/
  | notDirectory
  /-- A directory in the place of a file. -/
  | isDirectory
  /-- A name that is too long. -/
  | nameTooLong
  /-- A file whose bytes are no text. -/
  | invalidText
  /-- Any other reason, in the words of the system. -/
  | other (message : String)
  deriving DecidableEq, Repr

/-- The wording of a refusal of the operating system. -/
def SystemError.message : SystemError → String
  | .notFound => "No such file or directory (os error 2)"
  | .permissionDenied => "Permission denied (os error 13)"
  | .badAddress => "Bad address (os error 14)"
  | .noDevice => "No such device (os error 19)"
  | .notDirectory => "Not a directory (os error 20)"
  | .isDirectory => "Is a directory (os error 21)"
  | .nameTooLong => "File name too long (os error 36)"
  | .invalidText => "stream did not contain valid UTF-8"
  | .other message => message

end ByteScan
