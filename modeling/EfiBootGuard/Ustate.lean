import EfiBootGuard.Libc

/-!
The update states: `ustatemap`, `str2ustate` and `ustate2str` (bg_setenv.c, lines 217-240).

The `USTATE_*` constants come from envdata.h, which is not among the sources, and are modelled
from the spec: OK, INSTALLED, TESTING and FAILED are 0 to 3, and `USTATE_UNKNOWN` is 4, the index
of "UNKNOWN" in `ustatemap`. `str2ustate` compares exactly the four canonical names, ignoring
case, so its `for` loop (`str2ustateLoop`, the iterations still to run) goes from `USTATE_MIN` = 0
below `USTATE_MAX` = 4.
-/

namespace EfiBootGuard

def USTATE_UNKNOWN : Nat := 4

def USTATE_MIN : Nat := 0

def USTATE_MAX : Nat := 4

def ustatemap : List (List Char) :=
  ["OK".toList, "INSTALLED".toList, "TESTING".toList, "FAILED".toList, "UNKNOWN".toList]

def str2ustateLoop (str : List Char) : List Nat → Nat
  | [] => USTATE_UNKNOWN
  | i :: is =>
    let name := ustatemap.getD i []
    if strncasecmp name.length str name = 0 then i else str2ustateLoop str is

def str2ustate (str : List Char) : Nat :=
  str2ustateLoop str (List.range' USTATE_MIN (USTATE_MAX - USTATE_MIN))

def ustate2str (ustate : Nat) : List Char :=
  ustatemap.getD (if ustate > USTATE_MAX then USTATE_MAX else ustate) []

def HasPrefixCI (str name : List Char) : Prop :=
  (str.take name.length).map Char.toLower = name.map Char.toLower

instance (str name : List Char) : Decidable (HasPrefixCI str name) :=
  inferInstanceAs (Decidable (_ = _))

theorem lowerCode_inj {c d : Char} (h : lowerCode c = lowerCode d) :
    Char.toLower c = Char.toLower d := by
  rw [← Char.ofNat_toNat (Char.toLower c), ← Char.ofNat_toNat (Char.toLower d)]
  exact congrArg Char.ofNat (Int.ofNat_inj.mp h)

theorem strncasecmp_eq_zero_iff (name str : List Char)
    (hname : ∀ c ∈ name, lowerCode c ≠ 0) :
    strncasecmp name.length str name = 0 ↔ HasPrefixCI str name := by
  induction name generalizing str with
  | nil => simp [strncasecmp, HasPrefixCI]
  | cons d name ih =>
    have hd := hname d (by simp)
    cases str with
    | nil => simp [strncasecmp, HasPrefixCI, hd]
    | cons c str =>
      have ih' := ih str (fun c hc => hname c (by simp [hc]))
      by_cases hcd : lowerCode c = lowerCode d
      · simp only [HasPrefixCI] at ih'
        simp [strncasecmp, HasPrefixCI, hcd, lowerCode_inj hcd, ih']
      · have hne : Char.toLower c ≠ Char.toLower d := fun h => hcd (by simp [lowerCode, h])
        simp [strncasecmp, HasPrefixCI, hcd, hne, Int.sub_eq_zero]

theorem ustatemap_lowerCode (i : Nat) : ∀ c ∈ ustatemap.getD i [], lowerCode c ≠ 0 := by
  rcases i with _ | _ | _ | _ | _ | i <;> simp [ustatemap] <;> decide

theorem hasPrefixCI_cons (c d : Char) (str name : List Char) :
    HasPrefixCI (c :: str) (d :: name) ↔ Char.toLower c = Char.toLower d ∧ HasPrefixCI str name := by
  simp [HasPrefixCI]

theorem str2ustate_eq (str : List Char) :
    str2ustate str = if HasPrefixCI str "OK".toList then 0
      else if HasPrefixCI str "INSTALLED".toList then 1
      else if HasPrefixCI str "TESTING".toList then 2
      else if HasPrefixCI str "FAILED".toList then 3 else USTATE_UNKNOWN := by
  have key := fun j => strncasecmp_eq_zero_iff (ustatemap.getD j []) str (ustatemap_lowerCode j)
  have k0 := key 0
  have k1 := key 1
  have k2 := key 2
  have k3 := key 3
  simp only [str2ustate, USTATE_MIN, USTATE_MAX, List.range', str2ustateLoop, Nat.zero_add,
    Nat.reduceAdd, k0, k1, k2, k3]
  rfl

theorem str2ustate_le (str : List Char) : str2ustate str ≤ USTATE_UNKNOWN := by
  rw [str2ustate_eq]; split_ifs <;> simp [USTATE_UNKNOWN]

theorem str2ustate_eq_iff (str : List Char) (i : Nat) (hi : i < USTATE_MAX) :
    str2ustate str = i ↔ HasPrefixCI str (ustatemap.getD i []) := by
  rw [str2ustate_eq]
  simp only [USTATE_MAX] at hi
  cases str with
  | nil =>
    rcases i with _ | _ | _ | _ | i <;> simp [HasPrefixCI, USTATE_UNKNOWN, ustatemap]
    omega
  | cons c str =>
    have ho : "OK".toList = ['O', 'K'] := rfl
    have hi' : "INSTALLED".toList = 'I' :: "NSTALLED".toList := rfl
    have ht : "TESTING".toList = 'T' :: "ESTING".toList := rfl
    have hf : "FAILED".toList = 'F' :: "AILED".toList := rfl
    have lo : Char.toLower 'O' = 'o' := by decide
    have li : Char.toLower 'I' = 'i' := by decide
    have lt : Char.toLower 'T' = 't' := by decide
    have lf : Char.toLower 'F' = 'f' := by decide
    rcases i with _ | _ | _ | _ | i
    rotate_left 4
    · omega
    all_goals
      simp only [ustatemap, List.getD_cons_zero, List.getD_cons_succ, ho, hi', ht, hf,
        hasPrefixCI_cons, lo, li, lt, lf]
      split_ifs <;> simp_all [USTATE_UNKNOWN]

end EfiBootGuard
