namespace Provision

/-!
# Errors of the operating system

What keeps a file from being read or written, or a program from being run.
-/

inductive SystemError where
  | noSuchFile
  | notDirectory
  | isDirectory
  | invalidArgument
  | nameTooLong
  | permissionDenied
  | noSpace
  | addressInUse
  | addressNotAvailable
  /-- A path contains a NUL, which ends it. -/
  | nulInPath
  /-- The content is not text. -/
  | notText
  deriving DecidableEq, Repr, Inhabited

namespace SystemError

def numbered (text : String) (number : Nat) : String :=
  text ++ " (os error " ++ toString number ++ ")"

def message : SystemError → String
  | noSuchFile => numbered "No such file or directory" 2
  | permissionDenied => numbered "Permission denied" 13
  | notDirectory => numbered "Not a directory" 20
  | isDirectory => numbered "Is a directory" 21
  | invalidArgument => numbered "Invalid argument" 22
  | noSpace => numbered "No space left on device" 28
  | nameTooLong => numbered "File name too long" 36
  | addressInUse => numbered "Address already in use" 98
  | addressNotAvailable => numbered "Cannot assign requested address" 99
  | nulInPath => "file name contained an unexpected NUL byte"
  | notText => "stream did not contain valid UTF-8"

end SystemError

end Provision
