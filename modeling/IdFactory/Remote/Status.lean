import IdFactory.Error

namespace IdFactory.Remote

/-!
# Remote status codes

Over the wire a failure is a status: one of the seventeen standard codes and
a message. A factory error becomes a status by its cause: an exhausted pool
asks the client to retry later, and any other failure is internal, carrying
the error's message. Back on the client, a status asking to retry is an
exhausted pool, and any other is a failure of the remote source naming the
code and the message.
-/

/-- The standard status codes, in the order of their numbers 0 to 16. -/
inductive StatusCode where
  | ok | cancelled | unknown | invalidArgument | deadlineExceeded | notFound | alreadyExists
  | permissionDenied | resourceExhausted | failedPrecondition | aborted | outOfRange
  | unimplemented | internal | unavailable | dataLoss | unauthenticated
  deriving Repr, DecidableEq

/-- Every code, in the order of their numbers. -/
def StatusCode.all : List StatusCode :=
  [.ok, .cancelled, .unknown, .invalidArgument, .deadlineExceeded, .notFound, .alreadyExists,
   .permissionDenied, .resourceExhausted, .failedPrecondition, .aborted, .outOfRange,
   .unimplemented, .internal, .unavailable, .dataLoss, .unauthenticated]

/-- The name of a code. -/
def StatusCode.name : StatusCode → String
  | .ok => "Ok" | .cancelled => "Cancelled" | .unknown => "Unknown"
  | .invalidArgument => "InvalidArgument" | .deadlineExceeded => "DeadlineExceeded"
  | .notFound => "NotFound" | .alreadyExists => "AlreadyExists"
  | .permissionDenied => "PermissionDenied" | .resourceExhausted => "ResourceExhausted"
  | .failedPrecondition => "FailedPrecondition" | .aborted => "Aborted"
  | .outOfRange => "OutOfRange" | .unimplemented => "Unimplemented" | .internal => "Internal"
  | .unavailable => "Unavailable" | .dataLoss => "DataLoss"
  | .unauthenticated => "Unauthenticated"

/-- The number of a code. -/
def StatusCode.number (c : StatusCode) : Nat :=
  (StatusCode.all.idxOf c)

/-- The code of a number; numbers without a code are `unknown`. -/
def StatusCode.ofInt (n : Int) : StatusCode :=
  if n < 0 then .unknown else (StatusCode.all[n.toNat]?).getD .unknown

/-- The code of a number as a status carries it, a signed 32-bit word: a wider number is taken
modulo `2^32` first. -/
def StatusCode.ofInt32 (n : Int32) : StatusCode :=
  StatusCode.ofInt n.toInt

/-- The code of a name, if it names one. -/
def StatusCode.ofName? (name : String) : Option StatusCode :=
  StatusCode.all.find? (·.name == name)

/-- A status: a code and a message. -/
structure Status where
  code : StatusCode
  message : String
  deriving Repr, DecidableEq

/-- The message sent when no bucket is ready. -/
def retryLaterMessage : String := "factory: no bucket is ready, retry later"

/-- The text of a factory error as the service layer reports it. -/
def serviceErrorText (e : FactoryError) : String :=
  "factory error: " ++ e.message

/-- The factory error a client sees for a status. -/
def Status.toError (s : Status) : FactoryError :=
  match s.code with
  | .resourceExhausted => .poolExhausted
  | code => .transport (code.name ++ ": " ++ s.message)

end IdFactory.Remote

namespace IdFactory

/-- The status a service answers for a factory error. -/
def FactoryError.toStatus : FactoryError → Remote.Status
  | .poolExhausted => ⟨.resourceExhausted, Remote.retryLaterMessage⟩
  | e => ⟨.internal, e.message⟩

end IdFactory
