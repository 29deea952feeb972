import Mathlib.Data.List.Basic

/-!
# Go values used by the network server

The network-server code manipulates a handful of Go values whose behaviour has to be
spelled out before any function of the repository can be modelled: fixed-size byte arrays
(`uuid.UUID`, `lorawan.EUI64`) and the built-in `copy` into them, the conversions
`int32(x)` and `uint32(x)`, which keep the low 32 bits, and the run-time panics raised by
an index or a slice expression out of range and by a map lookup with an unhashable key.

A Go function that may panic is modelled as returning `Except RuntimePanic α`. A Go
`error` result is a value, not a panic, and is modelled separately in
`LoraServer.Errors`.
-/

namespace LoraServer

/-- A Go array `[n]byte`. Its length belongs to its type, so it is carried as a field. -/
structure FixedBytes (n : Nat) where
  bytes : List UInt8
  length_eq : bytes.length = n
  deriving DecidableEq, Repr

/-- A `lorawan.EUI64`: a gateway or device identifier. -/
abbrev EUI64 := FixedBytes 8

/-- A `uuid.UUID`. -/
abbrev UUID := FixedBytes 16

namespace FixedBytes

variable {n : Nat}

/-- The zero value of `[n]byte`. -/
def zero (n : Nat) : FixedBytes n :=
  ⟨List.replicate n 0, List.length_replicate n 0⟩

/-- The built-in `copy(a[:], src)`: the first `min n (len src)` bytes of `a` are replaced by
those of `src`, the others are kept. -/
def copy (a : FixedBytes n) (src : List UInt8) : FixedBytes n :=
  ⟨src.take n ++ a.bytes.drop src.length, by
    simp only [List.length_append, List.length_take, List.length_drop, a.length_eq]
    omega⟩

/-- Copying exactly `n` bytes overwrites the whole array. -/
theorem copy_bytes_of_length {a : FixedBytes n} {src : List UInt8} (length : src.length = n) :
    (a.copy src).bytes = src := by
  have covered : a.bytes.length ≤ src.length := by rw [a.length_eq, length]
  simp [copy, ← length, covered]

theorem ext_bytes {a b : FixedBytes n} (same : a.bytes = b.bytes) : a = b := by
  cases a
  cases b
  simp_all

end FixedBytes

/-- Go's conversion `int32(x)` of an integer: the low 32 bits, 2^32 = 4294967296, read in
two's complement. -/
def toInt32 (x : Int) : Int := x.bmod 4294967296

/-- Go's conversion `uint32(x)` of an integer: the low 32 bits. -/
def toUint32 (x : Int) : UInt32 := UInt32.ofNat (x % 4294967296).toNat

/-- A value already in the range of `int32` is unchanged by the conversion. -/
theorem toInt32_of_range {x : Int} (low : -2147483648 ≤ x) (high : x < 2147483648) :
    toInt32 x = x := by
  unfold toInt32
  rw [Int.bmod_def]
  split <;> omega

/-- The run-time panics the modelled code can raise. -/
inductive RuntimePanic where
  /-- An index expression `a[i]` with `i ≥ len(a)`. -/
  | indexOutOfRange (index length : Nat)
  /-- A slice expression `a[low:]` with `low > len(a)`. -/
  | sliceBoundsOutOfRange (low length : Nat)
  /-- A map lookup whose interface-typed key holds a value of an incomparable type. -/
  | hashOfUnhashableType
  deriving DecidableEq, Repr

variable {α : Type}

/-- The index expression `a[i]` on a slice. -/
def index (a : List α) (i : Nat) : Except RuntimePanic α :=
  match a[i]? with
  | some x => .ok x
  | none => .error (.indexOutOfRange i a.length)

/-- The slice expression `a[low:]`. -/
def sliceFrom (a : List α) (low : Nat) : Except RuntimePanic (List α) :=
  if low ≤ a.length then .ok (a.drop low) else .error (.sliceBoundsOutOfRange low a.length)

@[simp]
theorem index_cons_zero (x : α) (rest : List α) : index (x :: rest) 0 = .ok x := by
  simp [index]

@[simp]
theorem sliceFrom_cons_one (x : α) (rest : List α) : sliceFrom (x :: rest) 1 = .ok rest := by
  simp [sliceFrom]

section Except

variable {ε ε' β : Type}

theorem except_bind_eq_ok {x : Except ε α} {f : α → Except ε β} {b : β} :
    x >>= f = .ok b ↔ ∃ a, x = .ok a ∧ f a = .ok b := by
  cases x <;> simp [bind, Except.bind]

theorem except_bind_eq_error {x : Except ε α} {f : α → Except ε β} {e : ε} :
    x >>= f = .error e ↔ x = .error e ∨ ∃ a, x = .ok a ∧ f a = .error e := by
  cases x <;> simp [bind, Except.bind]

@[simp]
theorem mapError_ok {f : ε → ε'} {a : α} : (Except.ok a : Except ε α).mapError f = .ok a := rfl

@[simp]
theorem mapError_eq_ok {r : Except ε α} {f : ε → ε'} {a : α} :
    r.mapError f = .ok a ↔ r = .ok a := by
  cases r <;> simp [Except.mapError]

theorem mapError_eq_error {r : Except ε α} {f : ε → ε'} {e' : ε'} :
    r.mapError f = .error e' ↔ ∃ e, r = .error e ∧ f e = e' := by
  cases r <;> simp [Except.mapError]

end Except

@[simp]
theorem index_zero_eq_ok {a : List α} {x : α} : index a 0 = .ok x ↔ a.head? = some x := by
  cases a <;> simp [index]

end LoraServer
