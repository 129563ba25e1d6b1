/-!
# Failures of disk operations

The reasons for which the operating system, or the code that asks it, refuses an operation, with the
wording that it gives to each.
-/

namespace RackTraffic

/-- Why a disk operation or a program start failed. -/
inductive IoError where
  | notFound
  | permissionDenied
  | alreadyExists
  | notADirectory
  | isADirectory
  | directoryNotEmpty
  | nameTooLong
  | inUse
  | moveIntoSelf
  /-- A program file is neither a program nor a script. -/
  | notExecutable
  | nullInPath
  | noFileName
  | notText
  | other (reason : String)
  deriving DecidableEq, Repr

def IoError.message : IoError → String
  | .notFound => "No such file or directory (os error 2)"
  | .permissionDenied => "Permission denied (os error 13)"
  | .alreadyExists => "File exists (os error 17)"
  | .notADirectory => "Not a directory (os error 20)"
  | .isADirectory => "Is a directory (os error 21)"
  | .directoryNotEmpty => "Directory not empty (os error 39)"
  | .inUse => "Device or resource busy (os error 16)"
  | .nameTooLong => "File name too long (os error 36)"
  | .moveIntoSelf => "Invalid argument (os error 22)"
  | .notExecutable => "Exec format error (os error 8)"
  | .nullInPath => "file name contained an unexpected NUL byte"
  | .noFileName => "path has no file name"
  | .notText => "stream did not contain valid UTF-8"
  | .other reason => reason

end RackTraffic
