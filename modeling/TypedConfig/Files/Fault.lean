/-!
What the file system may answer instead of a file or a directory.
-/

namespace TypedConfig.Files

/-- Why an operation on files failed. -/
inductive Fault where
  | notFound
  | alreadyExists
  | notADirectory
  | isADirectory
  | nameTooLong
  | tooManyLinks
  | notUtf8
  | nulByte
  | permissionDenied
  | other (code : Nat) (description : String)
  deriving DecidableEq, Repr

/-- The number of the fault, for those that the operating system reports. -/
def Fault.code? : Fault → Option Nat
  | .notFound => some 2
  | .alreadyExists => some 17
  | .notADirectory => some 20
  | .isADirectory => some 21
  | .nameTooLong => some 36
  | .tooManyLinks => some 40
  | .notUtf8 => none
  | .nulByte => none
  | .permissionDenied => some 13
  | .other code _ => some code

/-- The fault in words, without its number. -/
def Fault.description : Fault → String
  | .notFound => "No such file or directory"
  | .alreadyExists => "File exists"
  | .notADirectory => "Not a directory"
  | .isADirectory => "Is a directory"
  | .nameTooLong => "File name too long"
  | .tooManyLinks => "Too many levels of symbolic links"
  | .notUtf8 => "stream did not contain valid UTF-8"
  | .nulByte => "file name contained an unexpected NUL byte"
  | .permissionDenied => "Permission denied"
  | .other _ description => description

/-- The class of the fault. -/
def Fault.label : Fault → String
  | .notFound => "NotFound"
  | .alreadyExists => "AlreadyExists"
  | .notADirectory => "NotADirectory"
  | .isADirectory => "IsADirectory"
  | .nameTooLong => "InvalidFilename"
  | .tooManyLinks => "FilesystemLoop"
  | .notUtf8 => "InvalidData"
  | .nulByte => "InvalidInput"
  | .permissionDenied => "PermissionDenied"
  | .other .. => "Uncategorized"

/-- The fault in words, with its number if it has one. -/
def Fault.message (f : Fault) : String :=
  match f.code? with
  | some n => f.description ++ " (os error " ++ toString n ++ ")"
  | none => f.description

end TypedConfig.Files
