import TruenasCsi.Support.Text

/-! The errors of the driver: what the functions above one can learn from it. -/

namespace TruenasCsi

inductive Code where
  | canceled
  | unknown
  | invalidArgument
  | deadlineExceeded
  | notFound
  | alreadyExists
  | permissionDenied
  | resourceExhausted
  | failedPrecondition
  | aborted
  | outOfRange
  | unimplemented
  | internal
  | unavailable
  | dataLoss
  | unauthenticated
deriving DecidableEq

namespace Code

def text : Code → String
  | canceled => "Canceled"
  | unknown => "Unknown"
  | invalidArgument => "InvalidArgument"
  | deadlineExceeded => "DeadlineExceeded"
  | notFound => "NotFound"
  | alreadyExists => "AlreadyExists"
  | permissionDenied => "PermissionDenied"
  | resourceExhausted => "ResourceExhausted"
  | failedPrecondition => "FailedPrecondition"
  | aborted => "Aborted"
  | outOfRange => "OutOfRange"
  | unimplemented => "Unimplemented"
  | internal => "Internal"
  | unavailable => "Unavailable"
  | dataLoss => "DataLoss"
  | unauthenticated => "Unauthenticated"

end Code

/-- The errors the driver compares with `errors.Is`. -/
inductive Sentinel where
  | malformedID
  | outsideParent
  | notManaged
  | invalidNamespace
  | grantsTooLarge
  | volumeGone
  | nodeNotFound
  | notFenceable
  | shrinkNotAllowed
  | unknownBackend
  | unsupportedProtocol
  | namespaceDatasetConflict
  | volumeNotFound
  | rdmaUnavailable
  | outsideGraveyard
  | failoverIncomplete
  | diverged
  | wrongPhase
  | testFailoverActive
  | noReplicatedSnapshot
  | forbiddenCall
  | notEligible
  | verification
  | unsupportedPath
  | wrongDevice
  | healthCheckTimeout
  | authFailed
  | connClosed
  | tooManyConcurrent
  | circuitOpen
  | contextEnded
deriving DecidableEq

/-- The middleware's error: errno name and reason. -/
structure CallError where
  errName : String
  reason : String
deriving DecidableEq

structure Err where
  code : Option Code
  sentinels : List Sentinel
  cause : Option CallError
  text : String
deriving DecidableEq

namespace Err

variable (e : Err) (s : Sentinel) (text : String)

/-- `errors.New`, or `fmt.Errorf` wrapping nothing. -/
def plain : Err := ⟨none, [], none, text⟩

def sentinel : Err := ⟨none, [s], none, text⟩

/-- `status.Error`: nothing below it stays reachable. -/
def status (code : Code) (message : String) : Err :=
  ⟨some code, [], none, "rpc error: code = " ++ code.text ++ " desc = " ++ message⟩

def call (method errName reason : String) : Err :=
  ⟨none, [], some ⟨errName, reason⟩, method ++ ": jsonrpc -32001 " ++ errName ++ ": " ++ reason⟩

/-- `fmt.Errorf` with `%w` at the end. -/
def wrap (context : String) (e : Err) : Err := { e with text := context ++ e.text }

/-- `fmt.Errorf` with a sentinel and another error. -/
def wrapBoth (e : Err) : Err :=
  { e with sentinels := s :: e.sentinels, text := text }

/-- An error with a gRPC code around another. -/
def withStatus (cause : Err) (code : Code) (message : String) : Err :=
  { cause with code := some code, text := message }

def isA : Bool := s ∈ e.sentinels

/-- Whether an error carries a code its maker chose. -/
def hasChosenCode : Bool :=
  match e.code with
  | none => false
  | some c => c != .unknown

private def contains (s part : String) : Bool :=
  s.toList.tails.any fun rest => part.toList.isPrefixOf rest

def isNotFound : Bool :=
  match e.cause with
  | none => false
  | some ce => Text.startsWith ce.reason "[ENOENT]"

def isParentMissing : Bool :=
  match e.cause with
  | none => false
  | some ce => contains ce.reason "Parent dataset" && contains ce.reason "does not exist"

def isHasDependentClones : Bool :=
  match e.cause with
  | none => false
  | some ce => contains ce.reason "dependent clones"

def isBusy : Bool :=
  (match e.cause with
    | none => false
    | some ce => ce.errName == "EBUSY" || contains ce.reason "dataset is busy") ||
  contains e.text "EBUSY" || contains e.text "dataset is busy"

end Err

end TruenasCsi
