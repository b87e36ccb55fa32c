import EfiBootGuard.Libc

/-!
`parse_int` (bg_setenv.c, lines 262-277): the int it returns and the `errno` it leaves. `IsNumeral s n`
says that `s` is white space, an optional sign and one or more decimal digits, and nothing else,
denoting `n`: the strings `parse_int` accepts.
-/

namespace EfiBootGuard

def parseInt (arg : List Char) : Int × Nat :=
  let r := strtol arg
  let errno := if r.erange then ERANGE else 0
  if errno = ERANGE ∨ (errno ≠ 0 ∧ r.val = 0) ∨ r.endOff = 0 ∨ r.endOff ≠ arg.length ∨
      r.val < INT_MIN ∨ INT_MAX < r.val then (-1, EINVAL)
  else (r.val, errno)

def IsNumeral (s : List Char) (n : Int) : Prop :=
  ∃ (ws ds : List Char) (sign : Option Char), s = ws ++ sign.toList ++ ds ∧
    (∀ c ∈ ws, isspace c) ∧ (sign = none ∨ sign = some '+' ∨ sign = some '-') ∧
    ds ≠ [] ∧ (∀ c ∈ ds, c.isDigit) ∧ n = signedValue (sign = some '-') ds

theorem isspace_of_isDigit {c : Char} (h : c.isDigit) : isspace c = false := by
  revert h
  simp only [Char.isDigit, isspace, Bool.and_eq_true, decide_eq_true_eq, Bool.or_eq_false_iff,
    decide_eq_false_iff_not, and_imp]
  intro h1 h2
  refine ⟨⟨⟨⟨⟨?_, ?_⟩, ?_⟩, ?_⟩, ?_⟩, ?_⟩ <;> rintro rfl <;> revert h1 h2 <;> decide

theorem strtolSign_spec (t : List Char) :
    ∃ sign : Option Char, t = sign.toList ++ (strtolSign t).2 ∧
      (sign = none ∨ sign = some '+' ∨ sign = some '-') ∧
      ((strtolSign t).1 = true ↔ sign = some '-') := by
  match t with
  | [] => exact ⟨none, rfl, .inl rfl, by simp [strtolSign]⟩
  | c :: s =>
    by_cases hm : c = '-'
    · exact ⟨some '-', by simp [strtolSign, hm], .inr (.inr rfl), by simp [strtolSign, hm]⟩
    by_cases hp : c = '+'
    · exact ⟨some '+', by simp [strtolSign, hp], .inr (.inl rfl), by simp [strtolSign, hp]⟩
    · exact ⟨none, by simp [strtolSign, hm, hp], .inl rfl, by simp [strtolSign, hm, hp]⟩

theorem strtolSign_digits {sign : Option Char} {ds : List Char}
    (hsign : sign = none ∨ sign = some '+' ∨ sign = some '-') (hne : ds ≠ [])
    (hd : ∀ c ∈ ds, c.isDigit) :
    strtolSign (sign.toList ++ ds) = (decide (sign = some '-'), ds) := by
  rcases hsign with rfl | rfl | rfl
  · obtain ⟨c, cs, rfl⟩ := List.exists_cons_of_ne_nil hne
    have hc := hd c (by simp)
    have hm : c ≠ '-' := by rintro rfl; exact absurd hc (by decide)
    have hp : c ≠ '+' := by rintro rfl; exact absurd hc (by decide)
    simp [strtolSign, hm, hp]
  · simp [strtolSign]
  · simp [strtolSign]

theorem isNumeral_iff_scan (s : List Char) (n : Int) :
    IsNumeral s n ↔ (strtolScan s).2.1 ≠ [] ∧ (strtolScan s).2.2 = [] ∧
      n = signedValue (strtolScan s).1 (strtolScan s).2.1 := by
  constructor
  · rintro ⟨ws, ds, sign, rfl, hws, hsign, hne, hd, rfl⟩
    have hdrop : (ws ++ sign.toList ++ ds).dropWhile isspace = sign.toList ++ ds := by
      rw [List.append_assoc, List.dropWhile_append_of_pos hws]
      obtain ⟨c, cs, hc⟩ : ∃ c cs, sign.toList ++ ds = c :: cs := by
        rcases hsign with rfl | rfl | rfl
        · exact List.exists_cons_of_ne_nil hne
        all_goals exact ⟨_, _, rfl⟩
      have hsp : isspace c = false := by
        rcases hsign with rfl | rfl | rfl
        · exact isspace_of_isDigit (hd c (by simp_all))
        all_goals simp only [Option.toList_some, List.singleton_append, List.cons.injEq] at hc
                  rw [← hc.1]; decide
      rw [hc, List.dropWhile_cons_of_neg (by simp [hsp])]
    simp only [strtolScan, hdrop, strtolSign_digits hsign hne hd,
      List.takeWhile_eq_self_iff.mpr hd, List.dropWhile_eq_nil_iff.mpr hd]
    simp [hne]
  · rintro ⟨hne, hrest, rfl⟩
    obtain ⟨sign, hsplit, hsign, hneg⟩ := strtolSign_spec (s.dropWhile isspace)
    refine ⟨s.takeWhile isspace, (strtolScan s).2.1, sign, ?_, fun c hc => ?_, hsign, hne,
      fun c hc => ?_, ?_⟩
    · have hbody := List.takeWhile_append_dropWhile Char.isDigit (strtolSign (s.dropWhile isspace)).2
      simp only [strtolScan] at hrest ⊢
      rw [hrest, List.append_nil] at hbody
      rw [List.append_assoc, hbody, ← hsplit, List.takeWhile_append_dropWhile]
    · exact List.mem_takeWhile_imp hc
    · exact List.mem_takeWhile_imp hc
    · have hb : (strtolSign (s.dropWhile isspace)).1 = decide (sign = some '-') := by
        rw [Bool.eq_iff_iff, hneg, decide_eq_true_iff]
      simp only [strtolScan, hb]

theorem scan_length_le (s : List Char) :
    (strtolScan s).2.1.length + (strtolScan s).2.2.length ≤ s.length := by
  obtain ⟨sign, hsplit, -, -⟩ := strtolSign_spec (s.dropWhile isspace)
  have h1 := congrArg List.length (List.takeWhile_append_dropWhile isspace s)
  have h2 := congrArg List.length hsplit
  have h3 := congrArg List.length
    (List.takeWhile_append_dropWhile Char.isDigit (strtolSign (s.dropWhile isspace)).2)
  simp only [strtolScan, List.length_append] at h1 h2 h3 ⊢
  omega

theorem strtol_cases (s : List Char) :
    ((strtolScan s).2.1 = [] ∧ strtol s = ⟨0, 0, false⟩) ∨
    ((strtolScan s).2.1 ≠ [] ∧ strtol s = ⟨signedValue (strtolScan s).1 (strtolScan s).2.1,
        s.length - (strtolScan s).2.2.length, false⟩ ∧
      LONG_MIN ≤ signedValue (strtolScan s).1 (strtolScan s).2.1 ∧
      signedValue (strtolScan s).1 (strtolScan s).2.1 ≤ LONG_MAX) ∨
    ((strtolScan s).2.1 ≠ [] ∧ (strtol s).erange = true ∧
      (signedValue (strtolScan s).1 (strtolScan s).2.1 < LONG_MIN ∨
        LONG_MAX < signedValue (strtolScan s).1 (strtolScan s).2.1)) := by
  unfold strtol
  generalize strtolScan s = r
  obtain ⟨neg, ds, rest⟩ := r
  by_cases hds : ds = []
  · simp [hds]
  simp only [hds, if_false, ne_eq, not_false_eq_true, true_and, false_and, false_or]
  split_ifs with hmax hmin
  · exact .inr ⟨rfl, .inr hmax⟩
  · exact .inr ⟨rfl, .inl hmin⟩
  · exact .inl ⟨rfl, by omega, by omega⟩

theorem parseInt_eq (s : List Char) :
    parseInt s = if (strtolScan s).2.1 ≠ [] ∧ (strtolScan s).2.2 = [] ∧
        INT_MIN ≤ signedValue (strtolScan s).1 (strtolScan s).2.1 ∧
        signedValue (strtolScan s).1 (strtolScan s).2.1 ≤ INT_MAX
      then (signedValue (strtolScan s).1 (strtolScan s).2.1, 0) else (-1, EINVAL) := by
  have hlen := scan_length_le s
  rcases strtol_cases s with ⟨hds, h⟩ | ⟨hds, h, hlo, hhi⟩ | ⟨hds, h, hout⟩
  · simp [parseInt, h, hds]
  · have hpos : 0 < (strtolScan s).2.1.length := List.length_pos.mpr hds
    simp only [parseInt, h, Bool.false_eq_true, ↓reduceIte, ne_eq, hds, not_false_eq_true,
      true_and, INT_MIN, INT_MAX, ERANGE]
    by_cases hr : (strtolScan s).2.2 = []
    · have h0 : (strtolScan s).2.2.length = 0 := by simp [hr]
      simp only [hr, List.length_nil, Nat.sub_zero, true_and, not_true_eq_false, false_and,
        false_or, or_false, ne_eq]
      split_ifs <;> first | rfl | (exfalso; simp only [false_or] at *; omega)
    · have hr' : 0 < (strtolScan s).2.2.length := List.length_pos.mpr hr
      rw [if_pos (by omega), if_neg (by simp [hr])]
  · simp only [LONG_MIN, LONG_MAX] at hout
    simp only [parseInt, h, if_true, true_or, INT_MIN, INT_MAX]
    rw [if_neg (by omega)]

theorem parseInt_ok {s : List Char} (h : (parseInt s).2 = 0) :
    IsNumeral s (parseInt s).1 ∧ INT_MIN ≤ (parseInt s).1 ∧ (parseInt s).1 ≤ INT_MAX := by
  rw [parseInt_eq] at h ⊢
  split_ifs at h ⊢ with hc
  · exact ⟨(isNumeral_iff_scan _ _).2 ⟨hc.1, hc.2.1, rfl⟩, hc.2.2⟩
  · simp [EINVAL] at h

theorem parseInt_errno (s : List Char) : (parseInt s).2 = 0 ∨ (parseInt s).2 = EINVAL := by
  rw [parseInt_eq]; split_ifs <;> simp

theorem parse_int_accepts_exactly_numerals (s : List Char) :
    (∀ n, parseInt s = (n, 0) ↔ IsNumeral s n ∧ INT_MIN ≤ n ∧ n ≤ INT_MAX) ∧
      ((¬ ∃ n, IsNumeral s n ∧ INT_MIN ≤ n ∧ n ≤ INT_MAX) → (parseInt s).2 = EINVAL) := by
  refine ⟨fun n => ?_, fun hnone => (parseInt_errno s).resolve_left fun h0 =>
    hnone ⟨_, parseInt_ok h0⟩⟩
  rw [parseInt_eq, isNumeral_iff_scan]
  split_ifs with h
  · exact ⟨by rintro ⟨⟩; exact ⟨⟨h.1, h.2.1, rfl⟩, h.2.2⟩, by rintro ⟨⟨-, -, rfl⟩, -⟩; rfl⟩
  · exact ⟨fun he => absurd (congrArg Prod.snd he) (by simp [EINVAL]),
      by rintro ⟨⟨h1, h2, rfl⟩, h3⟩; exact absurd ⟨h1, h2, h3⟩ h⟩

end EfiBootGuard
