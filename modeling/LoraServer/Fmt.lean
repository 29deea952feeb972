import Mathlib.Data.List.Basic

/-!
# The format-string reader of `fmt`, with no operands

`grpc.Errorf(code, format, a...)` builds its message with `fmt.Sprintf(format, a...)`, and the
RPC layer calls it with an error's text as the format and no operands. This file models the
loop `doPrintf` of package `fmt` for that case. Text up to a `%` is copied. A `%` starts a
directive: flags, an optional explicit argument index `[n]`, a width, a precision and a verb.
With no operands a directive never prints a value: `%%` prints a percent sign, and every other
verb prints an error note in its place, `%!v(MISSING)`, or `%!v(BADINDEX)` after an explicit
index; a `*` width or precision notes `%!(BADWIDTH)` or `%!(BADPREC)`, and a format that ends
inside a directive notes `%!(NOVERB)`.

The format is read as a list of characters. Every byte that `doPrintf` tests for (`%`, `[`,
`]`, `*`, `.`, flags and digits) is ASCII, so reading the UTF-8 bytes one by one, as `fmt`
does, and reading characters agree on well-formed text.
-/

namespace LoraServer.Fmt

/-- The error notes of `fmt`. -/
def percentBangString : List Char := "%!".toList
def noVerbString : List Char := "%!(NOVERB)".toList
def badWidthString : List Char := "%!(BADWIDTH)".toList
def badPrecString : List Char := "%!(BADPREC)".toList
def badIndexString : List Char := "(BADINDEX)".toList
def missingString : List Char := "(MISSING)".toList

/-- The function `tooLarge`: a number being parsed has grown past a million. -/
def tooLarge (x : Nat) : Bool := x > 1000000

/-- The loop of `parsenum` over the rest of its range, from the number read so far. It returns
the number, whether a digit was read, and what follows; on overflow it jumps to the end of
the range. -/
def parsenumFrom (num : Nat) (isnum : Bool) : List Char → Nat × Bool × List Char
  | [] => (num, isnum, [])
  | c :: rest =>
    if c.isDigit then
      if tooLarge num then (0, false, [])
      else parsenumFrom (num * 10 + (c.toNat - '0'.toNat)) true rest
    else (num, isnum, c :: rest)

/-- The function `parsenum` on the range `s`. -/
def parsenum (s : List Char) : Nat × Bool × List Char := parsenumFrom 0 false s

/-- The function `parseArgNumber` on a format that starts at `[`, given what follows the
bracket, with its operand number dropped: with no operands no index names one. It returns
whether a well-formed `[n]` was read and what follows the part it skips: up to the first `]`,
or only the bracket when there is no `]` or fewer than two characters follow. -/
def parseArgNumber (afterBracket : List Char) : Bool × List Char :=
  let inside := afterBracket.takeWhile (· != ']')
  if afterBracket.length < 2 ∨ inside.length = afterBracket.length then (false, afterBracket)
  else ((parsenum inside).2.1 && (parsenum inside).2.2.isEmpty,
    afterBracket.drop (inside.length + 1))

/-- The flags `#`, `0`, `+`, `-` and space, skipped: with no operands they change no output. -/
def skipFlags : List Char → List Char
  | [] => []
  | c :: rest => if c ∈ ['#', '0', '+', '-', ' '] then skipFlags rest else c :: rest

/-- What one directive leaves behind while it is read: the notes printed so far, whether the
argument number is still good, whether an index was just read, and the unread format. -/
structure Reading where
  out : List Char := []
  goodArgNum : Bool := true
  afterIndex : Bool := false
  rest : List Char

namespace Reading

/-- The method `argNumber` with no operands. An explicit index `[n]` cannot name an operand,
so it makes the argument number bad; `afterIndex` records whether it was well formed. -/
def argNumber (r : Reading) : Reading :=
  match r.rest with
  | '[' :: rest =>
    { r with goodArgNum := false, afterIndex := (parseArgNumber rest).1,
             rest := (parseArgNumber rest).2 }
  | _ => { r with afterIndex := false }

/-- The width: `*` asks for an operand, and there is none; digits are read and dropped, and
after an index they make the argument number bad. -/
def width (r : Reading) : Reading :=
  match r.rest with
  | '*' :: rest => { r with out := r.out ++ badWidthString, afterIndex := false, rest }
  | _ =>
    { r with goodArgNum := r.goodArgNum && !(r.afterIndex && (parsenum r.rest).2.1),
             rest := (parsenum r.rest).2.2 }

/-- The precision after its `.` and an optional index: `*` or digits. -/
def precisionValue (r : Reading) : Reading :=
  match r.rest with
  | '*' :: rest => { r with out := r.out ++ badPrecString, afterIndex := false, rest }
  | _ => { r with rest := (parsenum r.rest).2.2 }

/-- The precision, read when a `.` is followed by at least one more character. -/
def precision (r : Reading) : Reading :=
  match r.rest with
  | '.' :: c :: more =>
    ({ r with goodArgNum := r.goodArgNum && !r.afterIndex, rest := c :: more } : Reading)
      |>.argNumber |>.precisionValue
  | _ => r

/-- The verb ending a directive: what the directive prints and the rest of the format. -/
def verb (r : Reading) : List Char × List Char :=
  match r.rest with
  | [] => (r.out ++ noVerbString, [])
  | verb :: rest =>
    (r.out ++ if verb = '%' then ['%']
      else if r.goodArgNum then percentBangString ++ [verb] ++ missingString
      else percentBangString ++ [verb] ++ badIndexString, rest)

end Reading

/-- One directive, from just after its `%`: what it prints and the rest of the format. -/
def directive (afterPercent : List Char) : List Char × List Char :=
  let r := ({ rest := skipFlags afterPercent } : Reading).argNumber.width.precision
  (if r.afterIndex then r else r.argNumber).verb

theorem parsenumFrom_rest_length (num : Nat) (isnum : Bool) (s : List Char) :
    (parsenumFrom num isnum s).2.2.length ≤ s.length := by
  induction s generalizing num isnum with
  | nil => simp [parsenumFrom]
  | cons c rest ih =>
    unfold parsenumFrom
    split
    · split
      · simp
      · exact (ih _ _).trans (Nat.le_succ _)
    · simp

theorem skipFlags_length (s : List Char) : (skipFlags s).length ≤ s.length := by
  induction s with
  | nil => simp [skipFlags]
  | cons c rest ih =>
    unfold skipFlags
    split
    · exact ih.trans (Nat.le_succ _)
    · exact le_rfl

theorem parseArgNumber_rest_length (s : List Char) : (parseArgNumber s).2.length ≤ s.length := by
  unfold parseArgNumber
  dsimp only
  split <;> simp

namespace Reading

theorem argNumber_rest_length (r : Reading) : r.argNumber.rest.length ≤ r.rest.length := by
  unfold argNumber
  split
  · rename_i rest eq
    rw [eq]
    exact (parseArgNumber_rest_length rest).trans (Nat.le_succ _)
  · exact le_rfl

theorem width_rest_length (r : Reading) : r.width.rest.length ≤ r.rest.length := by
  unfold width
  split
  · simp_all
  · exact parsenumFrom_rest_length _ _ _

theorem precisionValue_rest_length (r : Reading) :
    r.precisionValue.rest.length ≤ r.rest.length := by
  unfold precisionValue
  split
  · simp_all
  · exact parsenumFrom_rest_length _ _ _

theorem precision_rest_length (r : Reading) : r.precision.rest.length ≤ r.rest.length := by
  unfold precision
  split
  · rename_i c more eq
    rw [eq]
    exact (precisionValue_rest_length _).trans <| (argNumber_rest_length _).trans (by simp)
  · exact le_rfl

theorem verb_rest_length (r : Reading) : r.verb.2.length ≤ r.rest.length := by
  unfold verb
  split <;> simp_all

end Reading

theorem directive_rest_length (s : List Char) : (directive s).2.length ≤ s.length := by
  have read : (({ rest := skipFlags s } : Reading).argNumber.width.precision).rest.length ≤
      s.length :=
    (Reading.precision_rest_length _).trans <| (Reading.width_rest_length _).trans <|
      (Reading.argNumber_rest_length _).trans (skipFlags_length s)
  unfold directive
  generalize ({ rest := skipFlags s } : Reading).argNumber.width.precision = r at read ⊢
  refine (Reading.verb_rest_length _).trans (le_trans ?_ read)
  split
  · exact le_rfl
  · exact Reading.argNumber_rest_length r

/-- The loop of `doPrintf` with no operands. -/
def doPrintf : List Char → List Char
  | [] => []
  | c :: rest =>
    if c = '%' then
      have _ := directive_rest_length rest
      (directive rest).1 ++ doPrintf (directive rest).2
    else c :: doPrintf rest
termination_by s => s.length

/-- The function `fmt.Sprintf(format)` called with no operands. -/
def sprintf (format : String) : String := ⟨doPrintf format.toList⟩

/-- Text without a percent sign is copied as it is, whatever follows it. -/
theorem doPrintf_append_of_no_percent (p q : List Char) (noPercent : '%' ∉ p) :
    doPrintf (p ++ q) = p ++ doPrintf q := by
  induction p with
  | nil => rfl
  | cons c rest ih =>
    simp only [List.mem_cons, not_or] at noPercent
    rw [List.cons_append, doPrintf, if_neg (Ne.symm noPercent.1), ih noPercent.2, List.cons_append]

/-- Text without a percent sign is printed as it is. -/
theorem doPrintf_of_no_percent (s : List Char) (noPercent : '%' ∉ s) : doPrintf s = s := by
  simpa [doPrintf] using doPrintf_append_of_no_percent s [] noPercent

theorem sprintf_of_no_percent (format : String) (noPercent : '%' ∉ format.toList) :
    sprintf format = format := by
  cases format
  simp only [sprintf, String.toList] at noPercent ⊢
  rw [doPrintf_of_no_percent _ noPercent]

/-- A format that ends in a lone `%` ends inside a directive with no verb. -/
theorem sprintf_trailing_percent (p : String) (noPercent : '%' ∉ p.toList) :
    sprintf (p ++ "%") = p ++ "%!(NOVERB)" := by
  have lone : doPrintf ['%'] = noVerbString := by
    rw [doPrintf, if_pos rfl]
    show noVerbString ++ doPrintf [] = noVerbString
    rw [doPrintf, List.append_nil]
  cases p
  simp only [sprintf, String.toList] at noPercent ⊢
  show (⟨doPrintf (_ ++ ['%'])⟩ : String) = ⟨_ ++ noVerbString⟩
  rw [doPrintf_append_of_no_percent _ _ noPercent, lone]

end LoraServer.Fmt
