import EfiBootGuard.Printenv
import Mathlib.Algebra.Group.Int

/-!
`dump_uservars` (bg_setenv.c, lines 539-606): what bg_printenv writes for the user variables of
a record, one variable after another as the library walks the area, each value printed by its
type.

The type numbers of ebgenv.h and the walk over the area are the library's, and are modelled from
the spec: the unsigned and the signed kinds are numbered in a row from 8 bits to 64, which the
range tests and the switches of `dump_uservars` rely on, and each step of the walk moves to a
shorter rest of the area. Values are read little-endian, and bytes past a value read as 0.
-/

namespace EfiBootGuard

/-- Modelled from the spec: the ebgenv.h type numbers `dump_uservars` tests. -/
structure UservarTypes where
  USERVAR_STANDARD_TYPE_MASK : UInt64
  USERVAR_TYPE_CHAR : UInt64
  USERVAR_TYPE_UINT8 : UInt64
  USERVAR_TYPE_UINT16 : UInt64
  USERVAR_TYPE_UINT32 : UInt64
  USERVAR_TYPE_UINT64 : UInt64
  USERVAR_TYPE_SINT8 : UInt64
  USERVAR_TYPE_SINT16 : UInt64
  USERVAR_TYPE_SINT32 : UInt64
  USERVAR_TYPE_SINT64 : UInt64
  USERVAR_TYPE_BOOL : UInt64
  uint_row : USERVAR_TYPE_UINT16.toNat = USERVAR_TYPE_UINT8.toNat + 1 ∧
    USERVAR_TYPE_UINT32.toNat = USERVAR_TYPE_UINT8.toNat + 2 ∧
    USERVAR_TYPE_UINT64.toNat = USERVAR_TYPE_UINT8.toNat + 3
  sint_row : USERVAR_TYPE_SINT16.toNat = USERVAR_TYPE_SINT8.toNat + 1 ∧
    USERVAR_TYPE_SINT32.toNat = USERVAR_TYPE_SINT8.toNat + 2 ∧
    USERVAR_TYPE_SINT64.toNat = USERVAR_TYPE_SINT8.toNat + 3

def sampleTypes : UservarTypes :=
  ⟨0xFFFFFFFF, 1, 2, 3, 4, 5, 6, 7, 8, 9, 10, by decide, by decide⟩

structure Uservar where
  key : List Char
  type : UInt64
  value : List UInt8
deriving DecidableEq, Repr

/-- Modelled from the spec: the library's walk over a user-variable area. -/
structure UservarWalk where
  map_uservar : List UInt8 → Uservar
  next_uservar : List UInt8 → List UInt8
  next_uservar_shorter : ∀ b udata, (next_uservar (b :: udata)).length ≤ udata.length

def byteChar (b : UInt8) : Char := Char.ofNat b.toNat

def cString (value : List UInt8) : String := String.mk ((value.takeWhile (· ≠ 0)).map byteChar)

def leValue : List UInt8 → Nat
  | [] => 0
  | b :: bs => b.toNat + 256 * leValue bs

def loadLe (w : Nat) (value : List UInt8) : Nat := leValue (value.take w)

def dumpUservar (c : Consts) (t : UservarTypes) (u : Uservar) : List String :=
  let type := u.type &&& t.USERVAR_STANDARD_TYPE_MASK
  [String.mk u.key ++ " ",
    if type = c.USERVAR_TYPE_STRING_ASCII then "= " ++ cString u.value ++ "\n"
    else if t.USERVAR_TYPE_UINT8 ≤ type ∧ type ≤ t.USERVAR_TYPE_UINT64 then
      -- the last case of the switch is USERVAR_TYPE_UINT64, the only type left in the range
      let val_unum :=
        if type = t.USERVAR_TYPE_UINT8 then loadLe 1 u.value
        else if type = t.USERVAR_TYPE_UINT16 then loadLe 2 u.value
        else if type = t.USERVAR_TYPE_UINT32 then loadLe 4 u.value
        else loadLe 8 u.value
      "= " ++ toString val_unum ++ "\n"
    else if t.USERVAR_TYPE_SINT8 ≤ type ∧ type ≤ t.USERVAR_TYPE_SINT64 then
      let val_snum :=
        if type = t.USERVAR_TYPE_SINT8 then (BitVec.ofNat 8 (loadLe 1 u.value)).toInt
        else if type = t.USERVAR_TYPE_SINT16 then (BitVec.ofNat 16 (loadLe 2 u.value)).toInt
        else if type = t.USERVAR_TYPE_SINT32 then (BitVec.ofNat 32 (loadLe 4 u.value)).toInt
        else (BitVec.ofNat 64 (loadLe 8 u.value)).toInt
      "= " ++ toString val_snum ++ "\n"
    else if type = t.USERVAR_TYPE_CHAR then "= " ++ (byteChar (u.value.headD 0)).toString ++ "\n"
    else if type = t.USERVAR_TYPE_BOOL then
      "= " ++ (if u.value.headD 0 ≠ 0 then "true" else "false") ++ "\n"
    else "( Type is not printable )\n"]

def dumpUservars (c : Consts) (t : UservarTypes) (walk : UservarWalk) : List UInt8 → List String
  | [] => []
  | b :: udata =>
    if b = 0 then []
    else dumpUservar c t (walk.map_uservar (b :: udata)) ++
      dumpUservars c t walk (walk.next_uservar (b :: udata))
termination_by udata => udata.length
decreasing_by simp_wf; exact Nat.lt_succ_of_le (walk.next_uservar_shorter _ _)

/-! What `dump_uservars` is for: the variables of the area, in the order they are encoded, each
with its value printed by its kind. -/

def uservarsFrom (walk : UservarWalk) : List UInt8 → List Uservar
  | [] => []
  | b :: udata =>
    if b = 0 then []
    else walk.map_uservar (b :: udata) :: uservarsFrom walk (walk.next_uservar (b :: udata))
termination_by udata => udata.length
decreasing_by simp_wf; exact Nat.lt_succ_of_le (walk.next_uservar_shorter _ _)

inductive IntWidth
  | w8
  | w16
  | w32
  | w64
deriving DecidableEq, Repr

def IntWidth.bytes : IntWidth → Nat
  | .w8 => 1
  | .w16 => 2
  | .w32 => 4
  | .w64 => 8

theorem IntWidth.bytes_pos (w : IntWidth) : 0 < w.bytes := by cases w <;> decide

inductive UservarKind
  | string
  | unsigned (w : IntWidth)
  | signed (w : IntWidth)
  | char
  | bool
  | unprintable
deriving DecidableEq, Repr

def uservarKind (c : Consts) (t : UservarTypes) (type : UInt64) : UservarKind :=
  let type := type &&& t.USERVAR_STANDARD_TYPE_MASK
  if type = c.USERVAR_TYPE_STRING_ASCII then .string
  else if type = t.USERVAR_TYPE_UINT8 then .unsigned .w8
  else if type = t.USERVAR_TYPE_UINT16 then .unsigned .w16
  else if type = t.USERVAR_TYPE_UINT32 then .unsigned .w32
  else if type = t.USERVAR_TYPE_UINT64 then .unsigned .w64
  else if type = t.USERVAR_TYPE_SINT8 then .signed .w8
  else if type = t.USERVAR_TYPE_SINT16 then .signed .w16
  else if type = t.USERVAR_TYPE_SINT32 then .signed .w32
  else if type = t.USERVAR_TYPE_SINT64 then .signed .w64
  else if type = t.USERVAR_TYPE_CHAR then .char
  else if type = t.USERVAR_TYPE_BOOL then .bool
  else .unprintable

def twosComplement (w n : Nat) : Int := if 2 * n < 2 ^ (8 * w) then n else n - 2 ^ (8 * w)

def formatValue : UservarKind → List UInt8 → String
  | .string, v => "= " ++ cString v ++ "\n"
  | .unsigned w, v => "= " ++ toString (loadLe w.bytes v) ++ "\n"
  | .signed w, v => "= " ++ toString (twosComplement w.bytes (loadLe w.bytes v)) ++ "\n"
  | .char, v => "= " ++ (byteChar (v.headD 0)).toString ++ "\n"
  | .bool, v => "= " ++ (if v.headD 0 ≠ 0 then "true" else "false") ++ "\n"
  | .unprintable, _ => "( Type is not printable )\n"

section Values

theorem leValue_lt (l : List UInt8) : leValue l < 256 ^ l.length := by
  induction l with
  | nil => simp [leValue]
  | cons b bs ih =>
    have hb := b.toNat_lt
    rw [leValue, List.length_cons, pow_succ]
    omega

theorem loadLe_lt (w : Nat) (value : List UInt8) : loadLe w value < 2 ^ (8 * w) :=
  calc loadLe w value < 256 ^ (value.take w).length := leValue_lt _
    _ ≤ 256 ^ w := Nat.pow_le_pow_right (by decide) (List.length_take_le _ _)
    _ = 2 ^ (8 * w) := by rw [Nat.pow_mul]

theorem toInt_ofNat_loadLe {n w : Nat} (hn : n = 8 * w) (value : List UInt8) :
    (BitVec.ofNat n (loadLe w value)).toInt = twosComplement w (loadLe w value) := by
  subst hn
  rw [BitVec.toInt_eq_toNat_cond, BitVec.toNat_ofNat, Nat.mod_eq_of_lt (loadLe_lt w value),
    twosComplement]
  push_cast; rfl

theorem twosComplement_spec {w n : Nat} (hw : 0 < w) (hn : n < 2 ^ (8 * w)) :
    -2 ^ (8 * w - 1) ≤ twosComplement w n ∧ twosComplement w n < 2 ^ (8 * w - 1) ∧
      twosComplement w n % 2 ^ (8 * w) = n := by
  have hP : (2 : Int) ^ (8 * w) = 2 * 2 ^ (8 * w - 1) := by
    rw [← Int.pow_succ']; congr 1; omega
  have hn' : (n : Int) < 2 ^ (8 * w) := by exact_mod_cast hn
  unfold twosComplement
  split_ifs with h
  · have h' : 2 * (n : Int) < 2 ^ (8 * w) := by exact_mod_cast h
    refine ⟨by omega, by omega, Int.emod_eq_of_lt (by omega) hn'⟩
  · have h' : ¬ 2 * (n : Int) < 2 ^ (8 * w) := by exact_mod_cast h
    refine ⟨by omega, by omega, ?_⟩
    rw [Int.emod_sub_cancel, Int.emod_eq_of_lt (by omega) hn']

end Values

section Types

variable (c : Consts) (t : UservarTypes)

theorem u64_eq_iff {x y : UInt64} : x = y ↔ x.toNat = y.toNat := ⟨congrArg _, UInt64.toNat.inj⟩

theorem u64_le_iff {x y : UInt64} : x ≤ y ↔ x.toNat ≤ y.toNat := Iff.rfl

theorem range_of_row {a b c d x : UInt64}
    (h : b.toNat = a.toNat + 1 ∧ c.toNat = a.toNat + 2 ∧ d.toNat = a.toNat + 3) :
    (a ≤ x ∧ x ≤ d) ↔ x = a ∨ x = b ∨ x = c ∨ x = d := by
  simp only [u64_eq_iff, u64_le_iff]; omega

theorem dumpUservar_eq_format (u : Uservar) :
    dumpUservar c t u = [String.mk u.key ++ " ", formatValue (uservarKind c t u.type) u.value] := by
  have hu := t.uint_row
  have hs := t.sint_row
  simp only [dumpUservar, uservarKind]
  generalize u.type &&& t.USERVAR_STANDARD_TYPE_MASK = x
  by_cases hstr : x = c.USERVAR_TYPE_STRING_ASCII
  · simp only [if_pos hstr]; rfl
  rw [if_neg hstr, if_neg hstr]
  by_cases hur : t.USERVAR_TYPE_UINT8 ≤ x ∧ x ≤ t.USERVAR_TYPE_UINT64
  · rw [if_pos hur]
    rcases (range_of_row hu).1 hur with rfl | rfl | rfl | rfl <;>
      simp [u64_eq_iff, hu, formatValue, IntWidth.bytes]
  rw [if_neg hur]
  obtain ⟨h1, h2, h3, h4⟩ : _ ∧ _ ∧ _ ∧ _ := by
    simpa only [not_or] using mt (range_of_row hu).2 hur
  by_cases hsr : t.USERVAR_TYPE_SINT8 ≤ x ∧ x ≤ t.USERVAR_TYPE_SINT64
  · rw [if_pos hsr, if_neg h1, if_neg h2, if_neg h3, if_neg h4]
    rcases (range_of_row hs).1 hsr with rfl | rfl | rfl | rfl <;>
      simp [u64_eq_iff, hs, formatValue, IntWidth.bytes,
        toInt_ofNat_loadLe (show 8 = 8 * 1 from rfl), toInt_ofNat_loadLe (show 16 = 8 * 2 from rfl),
        toInt_ofNat_loadLe (show 32 = 8 * 4 from rfl), toInt_ofNat_loadLe (show 64 = 8 * 8 from rfl)]
  obtain ⟨h5, h6, h7, h8⟩ : _ ∧ _ ∧ _ ∧ _ := by
    simpa only [not_or] using mt (range_of_row hs).2 hsr
  rw [if_neg hsr, if_neg h1, if_neg h2, if_neg h3, if_neg h4, if_neg h5, if_neg h6, if_neg h7,
    if_neg h8]
  by_cases hc : x = t.USERVAR_TYPE_CHAR
  · simp only [if_pos hc]; rfl
  by_cases hb : x = t.USERVAR_TYPE_BOOL
  · simp only [if_neg hc, if_pos hb]; rfl
  simp only [if_neg hc, if_neg hb]; rfl

theorem or_and_of_and_eq_zero {a f m : UInt64} (h : f &&& m = 0) : (a ||| f) &&& m = a &&& m := by
  have h' : f.toBitVec &&& m.toBitVec = 0#64 := congrArg UInt64.toBitVec h
  apply UInt64.eq_of_toBitVec_eq
  show (a.toBitVec ||| f.toBitVec) &&& m.toBitVec = a.toBitVec &&& m.toBitVec
  apply BitVec.eq_of_getLsbD_eq
  intro i
  have hi := congrArg (BitVec.getLsbD · i) h'
  simp only [BitVec.getLsbD_and, BitVec.getLsbD_or, BitVec.getLsbD_zero] at hi ⊢
  rw [Bool.and_or_distrib_right, hi, Bool.or_false]

end Types

section Walk

variable (c : Consts) (t : UservarTypes) (walk : UservarWalk)

theorem dumpUservars_eq (udata : List UInt8) :
    dumpUservars c t walk udata = (uservarsFrom walk udata).flatMap (dumpUservar c t) := by
  induction udata using uservarsFrom.induct walk with
  | case1 => rw [dumpUservars, uservarsFrom]; rfl
  | case2 bs => rw [dumpUservars, uservarsFrom]; rfl
  | case3 b bs hb ih =>
    rw [dumpUservars, uservarsFrom, if_neg hb, if_neg hb, ih, List.flatMap_cons]

end Walk

theorem dump_uservars_lists_variables (c : Consts) (t : UservarTypes) (walk : UservarWalk)
    (udata : List UInt8) :
    dumpUservars c t walk udata = (uservarsFrom walk udata).flatMap fun u =>
      [String.mk u.key ++ " ", formatValue (uservarKind c t u.type) u.value] := by
  rw [dumpUservars_eq]
  congr 1
  funext u
  exact dumpUservar_eq_format c t u

theorem dump_uservar_signed_twos_complement (c : Consts) (t : UservarTypes) (u : Uservar)
    {w : IntWidth} (h : uservarKind c t u.type = .signed w) :
    ∃ i : Int, dumpUservar c t u = [String.mk u.key ++ " ", "= " ++ toString i ++ "\n"] ∧
      -2 ^ (8 * w.bytes - 1) ≤ i ∧ i < 2 ^ (8 * w.bytes - 1) ∧
        i % 2 ^ (8 * w.bytes) = loadLe w.bytes u.value :=
  ⟨twosComplement w.bytes (loadLe w.bytes u.value), by rw [dumpUservar_eq_format, h]; rfl,
    twosComplement_spec w.bytes_pos (loadLe_lt _ _)⟩

theorem dump_uservar_sint8_minus_one :
    uservarKind sampleConsts sampleTypes 6 = .signed .w8 ∧
      ∃ i : Int, dumpUservar sampleConsts sampleTypes ⟨"a".toList, 6, [255]⟩ =
          ["a ", "= " ++ toString i ++ "\n"] ∧
        -2 ^ (8 * IntWidth.w8.bytes - 1) ≤ i ∧ i < 2 ^ (8 * IntWidth.w8.bytes - 1) ∧
          i % 2 ^ (8 * IntWidth.w8.bytes) = loadLe IntWidth.w8.bytes [255] :=
  ⟨by decide, dump_uservar_signed_twos_complement _ _ ⟨"a".toList, 6, [255]⟩ (by decide)⟩

example : dumpUservar sampleConsts sampleTypes ⟨"a".toList, 6, [255]⟩ = ["a ", "= -1\n"] := by
  decide

theorem dump_uservar_ignores_flags (c : Consts) (t : UservarTypes) (u : Uservar) {flags : UInt64}
    (h : flags &&& t.USERVAR_STANDARD_TYPE_MASK = 0) :
    dumpUservar c t { u with type := u.type ||| flags } = dumpUservar c t u := by
  simp only [dumpUservar, or_and_of_and_eq_zero h]

section Printenv

variable {L : Layout}

def EnvView.withUservars (view : EnvView L) (c : Consts) (t : UservarTypes) (walk : UservarWalk)
    (userdata : BgEnvdata L → List UInt8) : EnvView L :=
  { view with dump_uservars := fun env => dumpUservars c t walk (userdata env) }

theorem printenv_current_user_variables (c : Consts) (t : UservarTypes) (walk : UservarWalk)
    (view : EnvView L) (userdata : BgEnvdata L → List UInt8) (files : Files) (store : Store L)
    (allocs : List Bool) (hinit : store.bgenv_init = true) {env : BgEnvdata L}
    (hl : store.open_latest = some env) :
    bgPrintenv c (view.withUservars c t walk userdata) files store
        [('c', []), ('o', "user".toList)] allocs =
      ⟨0, ["Using latest config partition\n", "Values:\n", "\n", "user variables:\n"] ++
        ((uservarsFrom walk (userdata env)).flatMap fun u =>
          [String.mk u.key ++ " ", formatValue (uservarKind c t u.type) u.value]) ++ ["\n\n"],
        []⟩ := by
  have hf : parseOutputFields "user".toList =
      (0, ⟨false, false, false, false, false, false, true⟩, []) := by
    rw [(parseOutputFields_spec _).1 (by decide)]; rfl
  have hp : argpParse (parsePrintenvOpt c) [('c', []), ('o', "user".toList)] (Printenv.init allocs) =
      (.ret 0, ⟨⟨⟨none, false, 0, false⟩, true, ⟨false, false, false, false, false, false, true⟩⟩,
        Mem.init allocs, []⟩) := by
    simp only [argpParse, parsePrintenvOpt, hf]; rfl
  have hu : (fun u => dumpUservar c t u) = fun u =>
      [String.mk u.key ++ " ", formatValue (uservarKind c t u.type) u.value] :=
    funext (dumpUservar_eq_format c t)
  rw [bgPrintenv, hp]
  simp [hinit, dumpLatestEnv, hl, dumpEnv, EnvView.withUservars, dumpUservars_eq, hu]

theorem printenv_current_user_variables_one :
    (⟨true, some (BgEnvdata.zero _), none, fun _ => none, 0, 0, fun _ _ => true⟩ :
        Store sampleLayout).bgenv_init = true ∧
      (⟨true, some (BgEnvdata.zero _), none, fun _ => none, 0, 0, fun _ _ => true⟩ :
        Store sampleLayout).open_latest = some (BgEnvdata.zero _) ∧
      bgPrintenv sampleConsts ((EnvView.blank sampleLayout).withUservars sampleConsts sampleTypes
          ⟨fun _ => ⟨"a".toList, 4, [7]⟩, fun _ => [], fun _ _ => Nat.zero_le _⟩ fun _ => [1])
          ⟨fun _ => none, fun _ => false, true, true, 0⟩
          ⟨true, some (BgEnvdata.zero _), none, fun _ => none, 0, 0, fun _ _ => true⟩
          [('c', []), ('o', "user".toList)] [] =
        ⟨0, ["Using latest config partition\n", "Values:\n", "\n", "user variables:\n"] ++
          ((uservarsFrom ⟨fun _ => ⟨"a".toList, 4, [7]⟩, fun _ => [], fun _ _ => Nat.zero_le _⟩
              [1]).flatMap fun u =>
            [String.mk u.key ++ " ", formatValue (uservarKind sampleConsts sampleTypes u.type)
              u.value]) ++ ["\n\n"], []⟩ :=
  ⟨rfl, rfl, printenv_current_user_variables _ _ _ _ _ _ _ _ rfl rfl⟩

end Printenv

end EfiBootGuard
