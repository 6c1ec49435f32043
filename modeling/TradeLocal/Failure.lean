import TradeLocal.Bytes

/-!
# Failures

A failure has a kind, on which callers act, and a message for the user.  The system's own
refusals are `SystemError`s: each has one kind and one text.
-/

namespace TradeLocal

inductive FailureKind where
  | cancelled
  | unknown
  | invalidArgument
  | deadlineExceeded
  | notFound
  | alreadyExists
  | permissionDenied
  | resourceExhausted
  | failedPrecondition
  | aborted
  | outOfRange
  | unimplemented
  | internal
  | unavailable
  | dataLoss
  | unauthenticated
  deriving DecidableEq, Repr

structure Failure where
  kind : FailureKind
  message : Bytes
  deriving DecidableEq, Repr

inductive SystemError where
  | notFound
  | argumentsTooLong
  | badFormat
  | accessDenied
  | notDirectory
  | isDirectory
  | nameTooLong
  | tooManyLinks
  | notPermitted
  | noProcess
  | noDevice
  | badDescriptor
  | alreadyExists
  | invalidArgument
  | noSpace
  | brokenPipe
  | notEmpty
  | busy
  | noChildren
  /-- Any other refusal, as the system sorts and words it. -/
  | other (kind : FailureKind) (text : Bytes)
  deriving DecidableEq, Repr

namespace SystemError

def kind : SystemError → FailureKind
  | notFound | noDevice | noProcess => .notFound
  | accessDenied | notPermitted => .permissionDenied
  | argumentsTooLong | nameTooLong | invalidArgument => .invalidArgument
  | notDirectory | isDirectory | badDescriptor | brokenPipe | notEmpty | busy | noChildren =>
      .failedPrecondition
  | alreadyExists => .alreadyExists
  | noSpace => .resourceExhausted
  | badFormat | tooManyLinks => .unknown
  | other kind _ => kind

def text : SystemError → Bytes
  | notFound => ascii "No such file or directory"
  | argumentsTooLong => ascii "Argument list too long"
  | badFormat => ascii "Exec format error"
  | accessDenied => ascii "Permission denied"
  | notDirectory => ascii "Not a directory"
  | isDirectory => ascii "Is a directory"
  | nameTooLong => ascii "File name too long"
  | tooManyLinks => ascii "Too many levels of symbolic links"
  | notPermitted => ascii "Operation not permitted"
  | noProcess => ascii "No such process"
  | noDevice => ascii "No such device or address"
  | badDescriptor => ascii "Bad file descriptor"
  | alreadyExists => ascii "File exists"
  | invalidArgument => ascii "Invalid argument"
  | noSpace => ascii "No space left on device"
  | brokenPipe => ascii "Broken pipe"
  | notEmpty => ascii "Directory not empty"
  | busy => ascii "Device or resource busy"
  | noChildren => ascii "No child processes"
  | other _ text => text

/-- The failure of an attempt described by `context`: its description, a colon and the
system's text. -/
def failure (error : SystemError) (context : Bytes) : Failure :=
  ⟨error.kind, context ++ ascii ": " ++ error.text⟩

end SystemError

end TradeLocal
