/-
**What the operating system refuses.**

An input or output fault is one of the system's numbered refusals, a text that holds the character
NUL where the system wants none, or a fault of another kind that brings its own words.
-/

namespace Workyard

/-- A refusal of the operating system. -/
inductive OsFault where
  | notPermitted
  | notFound
  | noDevice
  | argumentsTooLong
  | badFormat
  | badDescriptor
  | permissionDenied
  | busy
  | alreadyExists
  | otherDevice
  | notADevice
  | notADirectory
  | isADirectory
  | invalid
  | fileTooLarge
  | noSpace
  | brokenPipe
  | nameTooLong
  | notEmpty
  | tooManyLinks
  | addressInUse
  | addressNotAvailable
  | networkUnreachable
deriving DecidableEq, Repr

/-- The words and the number of a refusal. -/
def OsFault.description : OsFault → String × Nat
  | .notPermitted => ("Operation not permitted", 1)
  | .notFound => ("No such file or directory", 2)
  | .noDevice => ("No such device or address", 6)
  | .argumentsTooLong => ("Argument list too long", 7)
  | .badFormat => ("Exec format error", 8)
  | .badDescriptor => ("Bad file descriptor", 9)
  | .permissionDenied => ("Permission denied", 13)
  | .busy => ("Device or resource busy", 16)
  | .alreadyExists => ("File exists", 17)
  | .otherDevice => ("Invalid cross-device link", 18)
  | .notADevice => ("No such device", 19)
  | .notADirectory => ("Not a directory", 20)
  | .isADirectory => ("Is a directory", 21)
  | .invalid => ("Invalid argument", 22)
  | .fileTooLarge => ("File too large", 27)
  | .noSpace => ("No space left on device", 28)
  | .brokenPipe => ("Broken pipe", 32)
  | .nameTooLong => ("File name too long", 36)
  | .notEmpty => ("Directory not empty", 39)
  | .tooManyLinks => ("Too many levels of symbolic links", 40)
  | .addressInUse => ("Address already in use", 98)
  | .addressNotAvailable => ("Cannot assign requested address", 99)
  | .networkUnreachable => ("Network is unreachable", 101)

/-- The words for a refusal. -/
def OsFault.message (fault : OsFault) : String :=
  s!"{fault.description.1} (os error {fault.description.2})"

/-- A fault of input or output. -/
inductive IoFault where
  | os (fault : OsFault)
  /-- A file name holds NUL. -/
  | nulInName
  /-- An argument of a program holds NUL. -/
  | nulInArgument
  /-- A fault with words of its own. -/
  | other (words : String)
deriving DecidableEq, Repr

/-- The words for a fault. -/
def IoFault.message : IoFault → String
  | .os fault => fault.message
  | .nulInName => "file name contained an unexpected NUL byte"
  | .nulInArgument => "nul byte found in provided data"
  | .other words => words

/-- The words for a fault, without its number. -/
def IoFault.reason : IoFault → String
  | .os fault => fault.description.1
  | fault => fault.message

end Workyard
