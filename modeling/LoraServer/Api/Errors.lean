import LoraServer.Errors
import LoraServer.Fmt

/-!
# The RPC error mapping

`errToRPCError` turns an error of the network server into a gRPC status error. It unwraps
the error with `errors.Cause`, looks the cause up in `errToCode`, a map from the sentinel
errors of the `data`, `proprietary`, `multicast` and `storage` packages to gRPC codes, falls
back to `codes.Unknown`, and builds the status with `grpc.Errorf(code, cause.Error())`.

Two things of the Go semantics decide what this returns for an arbitrary error. The map is
keyed by `error` interface values, so the lookup hashes the dynamic value of the cause and
panics when that value cannot be hashed, which a struct of a comparable type can still do
when an interface field of it holds a slice. And `grpc.Errorf` takes a format string, which
here is the cause's text, so the message is that text as `fmt.Sprintf` prints it with no
operands, which differs from the text when it holds a `%`.
-/

namespace LoraServer.Api

/-- The gRPC status codes of `google.golang.org/grpc/codes`. -/
inductive Code where
  | OK | Canceled | Unknown | InvalidArgument | DeadlineExceeded | NotFound | AlreadyExists
  | PermissionDenied | ResourceExhausted | FailedPrecondition | Aborted | OutOfRange
  | Unimplemented | Internal | Unavailable | DataLoss | Unauthenticated
  deriving DecidableEq, Repr

/-- A gRPC status error: its code and its message. -/
structure Status where
  code : Code
  message : String
  deriving DecidableEq, Repr

/-- The function `grpc.Errorf(c, format)` with no operands, that is
`status.New(c, fmt.Sprintf(format)).Err()`: nil for `codes.OK`, a status error otherwise. -/
def grpcErrorf (c : Code) (format : String) : Option Status :=
  if c = .OK then none else some ⟨c, Fmt.sprintf format⟩

/-- The map literal `errToCode`. -/
def errToCode : List (Sentinel × Code) :=
  [(.dataErrFPortMustNotBeZero, .InvalidArgument),
   (.dataErrFPortMustBeZero, .InvalidArgument),
   (.dataErrNoLastRXInfoSet, .FailedPrecondition),
   (.dataErrInvalidDataRate, .Internal),
   (.dataErrMaxPayloadSizeExceeded, .InvalidArgument),
   (.proprietaryErrInvalidDataRate, .Internal),
   (.multicastErrInvalidFCnt, .InvalidArgument),
   (.storageErrAlreadyExists, .AlreadyExists),
   (.storageErrDoesNotExistOrFCntOrMICInvalid, .NotFound),
   (.storageErrDoesNotExist, .NotFound),
   (.storageErrInvalidName, .InvalidArgument),
   (.storageErrInvalidAggregationInterval, .InvalidArgument),
   (.storageErrInvalidFPort, .InvalidArgument)]

/-- The sentinel a base error is, if it is one. -/
def sentinelOf : BaseError → Option Sentinel
  | .sentinel s _ => some s
  | .other _ _ => none

/-- The index expression `errToCode[key]` with its comma-ok form. The run-time hashes the key
first, which panics when its dynamic value cannot be hashed; only a sentinel, a pointer made by
`errors.New`, equals a key of the map, and a wrapper is a pointer that is never a key. -/
def lookupErrToCode : Error → Except RuntimePanic (Option Code)
  | .base (.sentinel s _) => .ok (errToCode.lookup s)
  | .base (.other _ value) => if value.hashable then .ok none else .error .hashOfUnhashableType
  | .withMessage _ _ | .withStack _ => .ok none

/-- The function `errToRPCError`, for a non-nil error. -/
def errToRPCError (err : Error) : Except RuntimePanic (Option Status) := do
  let cause := Errors.cause err
  let code ← lookupErrToCode cause
  return grpcErrorf (code.getD .Unknown) cause.error

/-- Every sentinel has an entry in `errToCode`. -/
theorem errToCode_lookup_isSome (s : Sentinel) : (errToCode.lookup s).isSome := by
  cases s <;> rfl

/-- The code `errToRPCError` gives a base error it can look up. -/
def codeOf (b : BaseError) : Code := ((sentinelOf b).bind errToCode.lookup).getD .Unknown

/-- No error is mapped to `codes.OK`, so `grpc.Errorf` never returns nil here. -/
theorem codeOf_ne_ok (b : BaseError) : codeOf b ≠ .OK := by
  cases b with
  | sentinel s _ =>
    show (errToCode.lookup s).getD .Unknown ≠ .OK
    cases s <;> decide
  | other => nofun

theorem lookupErrToCode_base (b : BaseError) :
    lookupErrToCode (.base b) =
      if b.Hashable then .ok ((sentinelOf b).bind errToCode.lookup)
      else .error .hashOfUnhashableType := by
  cases b with
  | sentinel => rfl
  | other text value => cases value.hashable <;> rfl

theorem errToRPCError_base (b : BaseError) :
    errToRPCError (.base b) =
      if b.Hashable then .ok (some ⟨codeOf b, Fmt.sprintf b.error⟩)
      else .error .hashOfUnhashableType := by
  simp only [errToRPCError, Errors.cause_base, lookupErrToCode_base]
  split
  · show Except.ok (grpcErrorf (codeOf b) b.error) = _
    simp [grpcErrorf, codeOf_ne_ok]
  · rfl

/-- The wrappers are unwrapped before the lookup. -/
theorem errToRPCError_wrapAll_base (b : BaseError) (wrappers : List Wrapper) :
    errToRPCError (wrapAll (.base b) wrappers) = errToRPCError (.base b) := by
  simp only [errToRPCError, cause_wrapAll]

/-- Two errors for which `errToRPCError` does not return the status of the cause's code with the
cause's text: a text that ends in `%` comes back with `%!(NOVERB)` in place of the `%`, and an
error whose value is a struct with an interface field that holds a slice makes the lookup
panic. -/
theorem errToRPCError_percent_text_and_slice_field :
    errToRPCError (wrapAll (.base (.other "battery at 100%" .scalar)) [.wrap "handle error"]) =
        .ok (some ⟨.Unknown, "battery at 100%!(NOVERB)"⟩) ∧
      "battery at 100%!(NOVERB)" ≠ "battery at 100%" ∧
      errToRPCError (wrapAll (.base (.other "aggregate error"
          (.composite (.cons (.interface .unhashable) .nil)))) [.wrap "handle error"]) =
        .error .hashOfUnhashableType := by
  refine ⟨?_, by decide, rfl⟩
  rw [errToRPCError_wrapAll_base, errToRPCError_base,
    if_pos (show BaseError.Hashable (.other "battery at 100%" .scalar) from rfl)]
  exact congrArg (fun message => Except.ok (some (Status.mk .Unknown message)))
    (Fmt.sprintf_trailing_percent "battery at 100" (by decide))

end LoraServer.Api
