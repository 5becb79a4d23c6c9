import BenchKernel.Text.Quoted

/-! # Errors of the operating system

The errors with which an access to a file or the start of a program can fail. -/

namespace BenchKernel

inductive OsError
  | notFound
  | noProcess
  | noDevice
  | execFormat
  | badNumber
  | permissionDenied
  | alreadyExists
  | notDirectory
  | isDirectory
  | invalidArgument
  | noSpace
  | brokenPipe
  | nameTooLong
  | notEmpty
  | tooManyLinks
  | zeroInPath
  | zeroInArgument
  | invalidText
  deriving DecidableEq, Repr

namespace OsError

/-- The number of an error of the system, and the name of its kind. -/
def number? : OsError → Option (Nat × String)
  | notFound => some (2, "NotFound")
  | noProcess => some (3, "Uncategorized")
  | noDevice => some (6, "Uncategorized")
  | execFormat => some (8, "Uncategorized")
  | badNumber => some (9, "Uncategorized")
  | permissionDenied => some (13, "PermissionDenied")
  | alreadyExists => some (17, "AlreadyExists")
  | notDirectory => some (20, "NotADirectory")
  | isDirectory => some (21, "IsADirectory")
  | invalidArgument => some (22, "InvalidInput")
  | noSpace => some (28, "StorageFull")
  | brokenPipe => some (32, "BrokenPipe")
  | nameTooLong => some (36, "InvalidFilename")
  | notEmpty => some (39, "DirectoryNotEmpty")
  | tooManyLinks => some (40, "FilesystemLoop")
  | zeroInPath | zeroInArgument | invalidText => none

def kind : OsError → String
  | zeroInPath | zeroInArgument => "InvalidInput"
  | invalidText => "InvalidData"
  | e => (e.number?.map Prod.snd).getD ""

def description : OsError → String
  | notFound => "No such file or directory"
  | noProcess => "No such process"
  | noDevice => "No such device or address"
  | execFormat => "Exec format error"
  | badNumber => "Bad file descriptor"
  | permissionDenied => "Permission denied"
  | alreadyExists => "File exists"
  | notDirectory => "Not a directory"
  | isDirectory => "Is a directory"
  | invalidArgument => "Invalid argument"
  | noSpace => "No space left on device"
  | brokenPipe => "Broken pipe"
  | nameTooLong => "File name too long"
  | notEmpty => "Directory not empty"
  | tooManyLinks => "Too many levels of symbolic links"
  | zeroInPath => "file name contained an unexpected NUL byte"
  | zeroInArgument => "nul byte found in provided data"
  | invalidText => "stream did not contain valid UTF-8"

def message (e : OsError) : String :=
  match e.number? with
  | some (number, _) => e.description ++ s!" (os error {number})"
  | none => e.description

/-- An error written as a record. -/
def describe (e : OsError) : String :=
  match e.number? with
  | some (number, kind) =>
    Text.showRecord "Os" [("code", toString number), ("kind", kind), ("message", Text.quoted e.description)]
  | none => Text.showRecord "Error" [("kind", e.kind), ("message", Text.quoted e.description)]

end OsError

end BenchKernel
