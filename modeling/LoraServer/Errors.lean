import LoraServer.Go

/-!
# Errors built with `github.com/pkg/errors`

Every error the network server returns is either a base error, one that does not implement
`Cause`, or a base error wrapped by the functions of `github.com/pkg/errors`. `Wrap` and
`Wrapf` put a `*withMessage` inside a `*withStack`, `WithMessage` adds only the message and
`WithStack` only the stack. Both wrapper types implement `Cause`, and `errors.Cause` unwraps
them until it meets an error that does not.

A base error is one of the package-level sentinel errors that the RPC layer maps to gRPC
codes, or any other error value. The map of the RPC layer is keyed by `error` interface
values, so what matters of a base error is whether it is one of the sentinels and whether Go
can hash its dynamic value: a sentinel is a pointer made by `errors.New`, and two pointers are
equal only when they are the same variable. Go hashes an interface value by the value it
holds, walking into the fields of a struct or an array and into the value an interface field
holds, and panics on a slice, a map or a function value it meets there; so whether an error
can be a map key depends on its value, not on its type alone. The stack trace a wrapper
records is read neither by `Error()` nor by `Cause`, and is left out.
-/

namespace LoraServer

/-- The sentinel errors that `errToCode` is keyed by, one constructor per package variable. -/
inductive Sentinel where
  | dataErrFPortMustNotBeZero
  | dataErrFPortMustBeZero
  | dataErrNoLastRXInfoSet
  | dataErrInvalidDataRate
  | dataErrMaxPayloadSizeExceeded
  | proprietaryErrInvalidDataRate
  | multicastErrInvalidFCnt
  | storageErrAlreadyExists
  | storageErrDoesNotExistOrFCntOrMICInvalid
  | storageErrDoesNotExist
  | storageErrInvalidName
  | storageErrInvalidAggregationInterval
  | storageErrInvalidFPort
  deriving DecidableEq, Repr

mutual

/-- The dynamic value of an interface, as far as the run-time's hash of a map key looks at it. -/
inductive DynamicValue where
  /-- A value of a boolean, numeric or string type, a pointer or a channel. -/
  | scalar
  /-- A slice, a map or a function value, which Go cannot hash. -/
  | unhashable
  /-- A struct or an array, by its fields or elements. -/
  | composite (fields : DynamicFields)
  /-- A nil interface value. -/
  | nilInterface
  /-- An interface value that holds a value. -/
  | interface (held : DynamicValue)
  deriving DecidableEq, Repr

/-- The fields of a struct, or the elements of an array, in order. -/
inductive DynamicFields where
  | nil
  | cons (field : DynamicValue) (rest : DynamicFields)
  deriving DecidableEq, Repr

end

mutual

/-- Whether the run-time's `typehash` of the value returns rather than panics with `hash of
unhashable type`: it hashes a scalar, walks into fields and held values, and stops on a slice,
a map or a function value. -/
def DynamicValue.hashable : DynamicValue → Bool
  | .scalar => true
  | .unhashable => false
  | .composite fields => fields.hashable
  | .nilInterface => true
  | .interface held => held.hashable

/-- Whether every field can be hashed. -/
def DynamicFields.hashable : DynamicFields → Bool
  | .nil => true
  | .cons field rest => field.hashable && rest.hashable

end

/-- A non-nil error that does not implement `Cause`. -/
inductive BaseError where
  /-- One of the sentinel errors, with the text its package gave it. -/
  | sentinel (s : Sentinel) (text : String)
  /-- Any other error, with its text and the value the `error` interface holds. -/
  | other (text : String) (value : DynamicValue)
  deriving DecidableEq, Repr

namespace BaseError

/-- The method `Error()` of a base error. -/
def error : BaseError → String
  | .sentinel _ text | .other text _ => text

/-- Whether a base error can be used as a map key without a run-time panic: a sentinel is a
pointer, any other error can when its value can be hashed. -/
def Hashable : BaseError → Prop
  | .sentinel _ _ => True
  | .other _ value => value.hashable = true

instance (e : BaseError) : Decidable e.Hashable :=
  match e with
  | .sentinel _ _ => isTrue trivial
  | .other _ value => inferInstanceAs (Decidable (value.hashable = true))

end BaseError

/-- A non-nil error value: a base error under any number of `pkg/errors` wrappers. -/
inductive Error where
  | base (err : BaseError)
  /-- The type `*withMessage`: a message in front of a cause. -/
  | withMessage (cause : Error) (msg : String)
  /-- The type `*withStack`: an error with the call stack where it was wrapped. -/
  | withStack (error : Error)
  deriving DecidableEq, Repr

namespace Error

/-- The method `Error()`: a `*withMessage` puts its message and a colon in front of its
cause's text, a `*withStack` shows the text of the error it holds. -/
def error : Error → String
  | .base err => err.error
  | .withMessage cause msg => msg ++ ": " ++ cause.error
  | .withStack err => err.error

end Error

namespace Errors

/-- The function `errors.New` of `github.com/pkg/errors`: a fresh `*fundamental`, a pointer
that does not implement `Cause`. -/
def new (message : String) : Error := .base (.other message .scalar)

/-- The function `errors.Wrap` on a non-nil error. -/
def wrap (err : Error) (message : String) : Error := .withStack (.withMessage err message)

/-- The function `errors.Wrapf` on a non-nil error, given the text `fmt.Sprintf(format, args...)`
it formats. -/
def wrapf (err : Error) (formatted : String) : Error := .withStack (.withMessage err formatted)

/-- The function `errors.WithMessage` on a non-nil error. -/
def withMessage (err : Error) (message : String) : Error := .withMessage err message

/-- The function `errors.WithStack` on a non-nil error. -/
def withStack (err : Error) : Error := .withStack err

/-- The function `errors.Cause`: the loop `for err != nil { cause, ok := err.(causer); if !ok
break; err = cause.Cause() }`, one iteration per wrapper. -/
def cause : Error → Error
  | .base err => .base err
  | .withMessage cause _ => Errors.cause cause
  | .withStack err => Errors.cause err

@[simp]
theorem cause_base (err : BaseError) : cause (.base err) = .base err := rfl

end Errors

/-- One call of a `pkg/errors` wrapping function, with its arguments. -/
inductive Wrapper where
  | wrap (message : String)
  | wrapf (formatted : String)
  | withMessage (message : String)
  | withStack
  deriving DecidableEq, Repr

namespace Wrapper

/-- Apply the wrapping function to a non-nil error. -/
def apply : Wrapper → Error → Error
  | .wrap message, err => Errors.wrap err message
  | .wrapf formatted, err => Errors.wrapf err formatted
  | .withMessage message, err => Errors.withMessage err message
  | .withStack, err => Errors.withStack err

/-- No wrapping function changes the cause. -/
@[simp]
theorem cause_apply (w : Wrapper) (err : Error) :
    Errors.cause (w.apply err) = Errors.cause err := by
  cases w <;> rfl

end Wrapper

/-- Apply a sequence of wrapping functions to an error, the first one innermost. -/
def wrapAll (err : Error) (wrappers : List Wrapper) : Error :=
  wrappers.foldl (fun inner w => w.apply inner) err

/-- However deep the wrapping, `errors.Cause` finds the error that was wrapped. -/
theorem cause_wrapAll (err : Error) (wrappers : List Wrapper) :
    Errors.cause (wrapAll err wrappers) = Errors.cause err := by
  induction wrappers generalizing err with
  | nil => rfl
  | cons w rest ih => simp only [wrapAll, List.foldl_cons] at ih ⊢; rw [ih, Wrapper.cause_apply]

end LoraServer
