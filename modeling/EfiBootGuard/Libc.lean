import Mathlib.Data.List.Basic

/-!
The C library functions `bg_setenv.c` calls, as the C standard and glibc define them for the
"C" locale. A C string is the list of its characters before the terminating NUL, and a pointer
into it an offset. `strtol` skips white space and reads a sign and decimal digits; without
digits it converts nothing and leaves `endptr` at `nptr`, and out of range it saturates and sets
`ERANGE`. `strtok` overwrites the delimiter that ends a token with NUL and saves the rest for the
next `strtok (NULL, delim)`; `strsep` moves `*stringp` past the first delimiter, or sets it to
`NULL` when there is none. `fmtUnsigned i` is what `asprintf (&tmp, "%u", i)` prints.
-/

namespace EfiBootGuard

def ENOMEM : Nat := 12
def EINVAL : Nat := 22
def ERANGE : Nat := 34

def LONG_MIN : Int := -9223372036854775808
def LONG_MAX : Int := 9223372036854775807
def INT_MIN : Int := -2147483648
def INT_MAX : Int := 2147483647

def isspace (c : Char) : Bool :=
  c = ' ' || c = '\t' || c = '\n' || c = '\x0b' || c = '\x0c' || c = '\r'

def digitsValue (ds : List Char) : Nat :=
  ds.foldl (fun n c => 10 * n + (c.toNat - '0'.toNat)) 0

def strtolSign : List Char → Bool × List Char
  | [] => (false, [])
  | c :: s => if c = '-' then (true, s) else if c = '+' then (false, s) else (false, c :: s)

def strtolScan (nptr : List Char) : Bool × List Char × List Char :=
  let (neg, body) := strtolSign (nptr.dropWhile isspace)
  (neg, body.takeWhile Char.isDigit, body.dropWhile Char.isDigit)

def signedValue (neg : Bool) (ds : List Char) : Int :=
  if neg then -(digitsValue ds : Int) else digitsValue ds

structure Strtol where
  val : Int
  endOff : Nat
  erange : Bool
deriving DecidableEq, Repr

/-- glibc's `strtol` in base 10. -/
def strtol (nptr : List Char) : Strtol :=
  let (neg, ds, rest) := strtolScan nptr
  if ds = [] then ⟨0, 0, false⟩
  else
    let v := signedValue neg ds
    let endOff := nptr.length - rest.length
    if LONG_MAX < v then ⟨LONG_MAX, endOff, true⟩
    else if v < LONG_MIN then ⟨LONG_MIN, endOff, true⟩
    else ⟨v, endOff, false⟩

def lowerCode (c : Char) : Int := (Char.toLower c).toNat

def strncasecmp : Nat → List Char → List Char → Int
  | 0, _, _ => 0
  | _ + 1, [], [] => 0
  | _ + 1, [], c :: _ => -lowerCode c
  | _ + 1, c :: _, [] => lowerCode c
  | n + 1, c :: s1, d :: s2 =>
    if lowerCode c = lowerCode d then strncasecmp n s1 s2 else lowerCode c - lowerCode d

def strtok (delim : List Char) (s : List Char) : Option (List Char) × List Char :=
  let t := s.dropWhile delim.contains
  if t = [] then (none, [])
  else (some (t.takeWhile (!delim.contains ·)), (t.dropWhile (!delim.contains ·)).drop 1)

def strsep (delim : List Char) : Option (List Char) → Option (List Char) × Option (List Char)
  | none => (none, none)
  | some s =>
    match s.dropWhile (!delim.contains ·) with
    | [] => (some (s.takeWhile (!delim.contains ·)), none)
    | _ :: rest => (some (s.takeWhile (!delim.contains ·)), some rest)

theorem strsep_cases (d : Char) (s : List Char) :
    (d ∉ s ∧ strsep [d] (some s) = (some s, none)) ∨
      ∃ t r, d ∉ t ∧ s = t ++ d :: r ∧ strsep [d] (some s) = (some t, some r) := by
  have hs := List.takeWhile_append_dropWhile (fun x => !([d].contains x)) s
  rw [strsep]
  split
  next h =>
    rw [h, List.append_nil] at hs
    refine .inl ⟨fun hd => ?_, by rw [hs]⟩
    have := List.mem_takeWhile_imp (hs ▸ hd)
    simp at this
  next x rest h =>
    have hx := List.head_dropWhile_not (fun x => !([d].contains x)) s (by rw [h]; simp)
    simp only [h, List.head_cons] at hx
    obtain rfl : x = d := by simpa using hx
    refine .inr ⟨_, rest, fun hd => ?_, by rw [← h, hs], rfl⟩
    have := List.mem_takeWhile_imp hd
    simp at this

def fmtUnsigned (i : Int) : List Char := Nat.toDigits 10 (i % 4294967296).toNat

theorem fmtUnsigned_of_nonneg {i : Int} (h0 : 0 ≤ i) (h1 : i < 4294967296) :
    fmtUnsigned i = Nat.toDigits 10 i.toNat := by
  rw [fmtUnsigned, Int.emod_eq_of_lt h0 h1]

end EfiBootGuard
