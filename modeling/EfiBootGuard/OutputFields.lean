import EfiBootGuard.Libc

/-!
`parse_output_fields` (bg_setenv.c, lines 487-513): the `-o LIST` option of bg_printenv, a
comma-separated list of the fields `dump_env` prints, cut with `strsep`. `setOutputField` is the
`strcmp` chain on one nonempty token, and the loop stops with 1 at the first token that names
no field, keeping the fields chosen before it.
-/

namespace EfiBootGuard

@[ext] structure Fields where
  in_progress : Bool
  revision : Bool
  kernel : Bool
  kernelargs : Bool
  wdog_timeout : Bool
  ustate : Bool
  user : Bool
deriving DecidableEq, Repr

def ALL_FIELDS : Fields := ⟨true, true, true, true, true, true, true⟩

def noFields : Fields := ⟨false, false, false, false, false, false, false⟩

def setOutputField (token : List Char) (output_fields : Fields) : Option Fields :=
  if token = "in_progress".toList then some { output_fields with in_progress := true }
  else if token = "revision".toList then some { output_fields with revision := true }
  else if token = "kernel".toList then some { output_fields with kernel := true }
  else if token = "kernelargs".toList then some { output_fields with kernelargs := true }
  else if token = "watchdog_timeout".toList then some { output_fields with wdog_timeout := true }
  else if token = "ustate".toList then some { output_fields with ustate := true }
  else if token = "user".toList then some { output_fields with user := true }
  else none

theorem strsep_lt {d : Char} {fields : Option (List Char)} {token : List Char}
    {rest : Option (List Char)} (h : strsep [d] fields = (some token, rest)) :
    rest.elim 0 (·.length + 1) < fields.elim 0 (·.length + 1) := by
  cases fields with
  | none => cases h
  | some s =>
    rcases strsep_cases d s with ⟨-, hs⟩ | ⟨t, r, -, rfl, hs⟩ <;> rw [hs] at h <;> cases h
    · simp
    · simp; omega

def parseOutputFieldsLoop (fields : Option (List Char)) (output_fields : Fields) :
    Nat × Fields × List String :=
  match _h : strsep [','] fields with
  | (none, _) => (0, output_fields, [])
  | (some token, rest) =>
    if token = [] then parseOutputFieldsLoop rest output_fields
    else match setOutputField token output_fields with
      | some output_fields => parseOutputFieldsLoop rest output_fields
      | none => (1, output_fields, ["Unknown output field: " ++ String.mk token ++ "\n"])
termination_by fields.elim 0 (·.length + 1)
decreasing_by all_goals exact strsep_lt _h

def parseOutputFields (fields : List Char) : Nat × Fields × List String :=
  parseOutputFieldsLoop (some fields) noFields

section Loop

variable {fields rest : Option (List Char)} {f f' : Fields} {token : List Char}

theorem parseOutputFieldsLoop_null {r : Option (List Char)} (h : strsep [','] fields = (none, r)) :
    parseOutputFieldsLoop fields f = (0, f, []) := by
  rw [parseOutputFieldsLoop]; split <;> simp_all

theorem parseOutputFieldsLoop_empty (h : strsep [','] fields = (some [], rest)) :
    parseOutputFieldsLoop fields f = parseOutputFieldsLoop rest f := by
  rw [parseOutputFieldsLoop]; split <;> simp_all

theorem parseOutputFieldsLoop_known (h : strsep [','] fields = (some token, rest))
    (hne : token ≠ []) (hf : setOutputField token f = some f') :
    parseOutputFieldsLoop fields f = parseOutputFieldsLoop rest f' := by
  rw [parseOutputFieldsLoop]; split <;> simp_all

theorem parseOutputFieldsLoop_unknown (h : strsep [','] fields = (some token, rest))
    (hne : token ≠ []) (hf : setOutputField token f = none) :
    parseOutputFieldsLoop fields f =
      (1, f, ["Unknown output field: " ++ String.mk token ++ "\n"]) := by
  rw [parseOutputFieldsLoop]; split <;> simp_all

def outputItems : Option (List Char) → List (List Char)
  | none => []
  | some s => s.splitOn ','

theorem outputItems_of_null {r : Option (List Char)} (h : strsep [','] fields = (none, r)) :
    outputItems fields = [] := by
  cases fields with
  | none => rfl
  | some s => rcases strsep_cases ',' s with ⟨-, hs⟩ | ⟨t, r, -, -, hs⟩ <;> rw [hs] at h <;> cases h

theorem outputItems_of_token (h : strsep [','] fields = (some token, rest)) :
    outputItems fields = token :: outputItems rest := by
  cases fields with
  | none => cases h
  | some s =>
    rcases strsep_cases ',' s with ⟨hd, hs⟩ | ⟨t, r, ht, rfl, hs⟩ <;> rw [hs] at h <;> cases h
    · exact List.splitOnP_eq_single _ _ fun x hx (hc : (x == ',') = true) => hd (eq_of_beq hc ▸ hx)
    · exact List.splitOnP_first _ _ (fun x hx (hc : (x == ',') = true) => ht (eq_of_beq hc ▸ hx))
        ',' (by simp) r

end Loop

/-! What `-o` is for: the list names the fields to print. -/

def outputFieldNames : List (List Char) :=
  ["in_progress".toList, "revision".toList, "kernel".toList, "kernelargs".toList,
    "watchdog_timeout".toList, "ustate".toList, "user".toList]

def Fields.ofNames (names : List (List Char)) : Fields :=
  ⟨"in_progress".toList ∈ names, "revision".toList ∈ names, "kernel".toList ∈ names,
    "kernelargs".toList ∈ names, "watchdog_timeout".toList ∈ names, "ustate".toList ∈ names,
    "user".toList ∈ names⟩

def FieldItem (t : List Char) : Prop := t = [] ∨ t ∈ outputFieldNames

instance : DecidablePred FieldItem := fun t => inferInstanceAs (Decidable (t = [] ∨ _))

theorem setOutputField_eq_none {token : List Char} {f : Fields} :
    setOutputField token f = none ↔ token ∉ outputFieldNames := by
  by_cases h : token ∈ outputFieldNames
  · simp only [outputFieldNames, List.mem_cons, List.not_mem_nil, or_false] at h
    rcases h with rfl | rfl | rfl | rfl | rfl | rfl | rfl <;>
      exact iff_of_false (fun h => Option.some_ne_none _ h) (by decide)
  · obtain ⟨h1, h2, h3, h4, h5, h6, h7⟩ : _ ∧ _ ∧ _ ∧ _ ∧ _ ∧ _ ∧ _ := by
      simpa only [outputFieldNames, List.mem_cons, List.not_mem_nil, or_false, not_or] using h
    rw [setOutputField, if_neg h1, if_neg h2, if_neg h3, if_neg h4, if_neg h5, if_neg h6, if_neg h7]
    exact iff_of_true rfl h

theorem ofNames_append_singleton (names : List (List Char)) (t : List Char) :
    Fields.ofNames (names ++ [t]) =
      ⟨decide ("in_progress".toList = t) || (Fields.ofNames names).in_progress,
        decide ("revision".toList = t) || (Fields.ofNames names).revision,
        decide ("kernel".toList = t) || (Fields.ofNames names).kernel,
        decide ("kernelargs".toList = t) || (Fields.ofNames names).kernelargs,
        decide ("watchdog_timeout".toList = t) || (Fields.ofNames names).wdog_timeout,
        decide ("ustate".toList = t) || (Fields.ofNames names).ustate,
        decide ("user".toList = t) || (Fields.ofNames names).user⟩ := by
  simp only [Fields.ofNames, List.mem_append, List.mem_singleton, Bool.decide_or, Bool.or_comm]

theorem setOutputField_ofNames {token : List Char} (h : token ∈ outputFieldNames)
    (names : List (List Char)) :
    setOutputField token (Fields.ofNames names) = some (Fields.ofNames (names ++ [token])) := by
  simp only [outputFieldNames, List.mem_cons, List.mem_singleton, List.not_mem_nil, or_false] at h
  rw [ofNames_append_singleton]
  rcases h with rfl | rfl | rfl | rfl | rfl | rfl | rfl <;> rfl

theorem ofNames_append_nil (names : List (List Char)) :
    Fields.ofNames (names ++ [[]]) = Fields.ofNames names := by
  rw [ofNames_append_singleton]; rfl

def OutputFieldsSpec (done rest : List (List Char)) (r : Nat × Fields × List String) : Prop :=
  ((∀ t ∈ rest, FieldItem t) → r = (0, Fields.ofNames (done ++ rest), [])) ∧
  ∀ pre t post, rest = pre ++ t :: post → (∀ u ∈ pre, FieldItem u) → ¬ FieldItem t →
    r = (1, Fields.ofNames (done ++ pre), ["Unknown output field: " ++ String.mk t ++ "\n"])

namespace OutputFieldsSpec

variable {done rest : List (List Char)} {token : List Char}

theorem nil : OutputFieldsSpec done [] (0, Fields.ofNames done, []) :=
  ⟨fun _ => by rw [List.append_nil], fun pre t post h => by simp at h⟩

theorem cons {r : Nat × Fields × List String} (htok : FieldItem token)
    (h : OutputFieldsSpec (done ++ [token]) rest r) : OutputFieldsSpec done (token :: rest) r := by
  refine ⟨fun hall => ?_, fun pre t post hs hpre hbad => ?_⟩
  · rw [h.1 fun t ht => hall t (List.mem_cons_of_mem _ ht)]; simp
  · cases pre with
    | nil => exact absurd ((List.cons.inj hs).1 ▸ htok) hbad
    | cons u pre =>
      rw [h.2 pre t post (List.cons.inj hs).2 (fun v hv => hpre v (List.mem_cons_of_mem _ hv)) hbad]
      simp [(List.cons.inj hs).1]

theorem unknown (htok : ¬ FieldItem token) :
    OutputFieldsSpec done (token :: rest)
      (1, Fields.ofNames done, ["Unknown output field: " ++ String.mk token ++ "\n"]) := by
  refine ⟨fun hall => absurd (hall token (List.mem_cons_self _ _)) htok,
    fun pre t post hs hpre _ => ?_⟩
  cases pre with
  | nil => obtain ⟨rfl, -⟩ := List.cons.inj hs; simp
  | cons u pre => exact absurd ((List.cons.inj hs).1 ▸ hpre u (List.mem_cons_self _ _)) htok

end OutputFieldsSpec

theorem parseOutputFieldsLoop_spec (fields : Option (List Char)) (f : Fields) :
    ∀ done, f = Fields.ofNames done →
      OutputFieldsSpec done (outputItems fields) (parseOutputFieldsLoop fields f) := by
  induction fields, f using parseOutputFieldsLoop.induct with
  | case1 fields f r h =>
    intro done hf
    rw [parseOutputFieldsLoop_null h, outputItems_of_null h, hf]
    exact .nil
  | case2 fields f rest h ih =>
    intro done hf
    rw [parseOutputFieldsLoop_empty h, outputItems_of_token h]
    exact .cons (.inl rfl) (ih _ (hf.trans (ofNames_append_nil done).symm))
  | case3 fields f token rest h hne f' hf' ih =>
    intro done hf
    subst hf
    have hmem : token ∈ outputFieldNames := by
      by_contra hn; rw [setOutputField_eq_none.2 hn] at hf'; cases hf'
    rw [parseOutputFieldsLoop_known h hne hf', outputItems_of_token h]
    exact .cons (.inr hmem)
      (ih _ (Option.some.inj (hf'.symm.trans (setOutputField_ofNames hmem done))))
  | case4 fields f token rest h hne hf' =>
    intro done hf
    rw [parseOutputFieldsLoop_unknown h hne hf', outputItems_of_token h, hf]
    exact .unknown fun ht => ht.elim hne (setOutputField_eq_none.1 hf')

theorem parseOutputFields_spec (fields : List Char) :
    OutputFieldsSpec [] (fields.splitOn ',') (parseOutputFields fields) :=
  parseOutputFieldsLoop_spec (some fields) noFields [] rfl

theorem parseOutputFields_ok {fields : List Char} (h : (parseOutputFields fields).1 = 0) :
    (parseOutputFields fields).2 = (Fields.ofNames (fields.splitOn ','), []) := by
  by_cases hall : ∀ t ∈ fields.splitOn ',', FieldItem t
  · rw [(parseOutputFields_spec fields).1 hall]; rfl
  · have hd : (fields.splitOn ',').dropWhile (FieldItem ·) ≠ [] :=
      fun he => hall fun t ht => by simpa using List.dropWhile_eq_nil_iff.1 he t ht
    obtain ⟨t, post, hdrop⟩ := List.exists_cons_of_ne_nil hd
    have hbad := List.head_dropWhile_not (FieldItem ·) _ hd
    simp only [hdrop, List.head_cons, decide_eq_false_iff_not] at hbad
    have hsplit := List.takeWhile_append_dropWhile (FieldItem ·) (fields.splitOn ',')
    rw [hdrop] at hsplit
    rw [(parseOutputFields_spec fields).2 _ t post hsplit.symm
      (fun u hu => by simpa using List.mem_takeWhile_imp hu) hbad] at h
    cases h

theorem parse_output_fields_selects_named (fields : List Char) :
    ((∀ t ∈ fields.splitOn ',', FieldItem t) →
      parseOutputFields fields = (0, Fields.ofNames (fields.splitOn ','), [])) ∧
    ∀ pre t post, fields.splitOn ',' = pre ++ t :: post → (∀ u ∈ pre, FieldItem u) →
      ¬ FieldItem t →
      parseOutputFields fields =
        (1, Fields.ofNames pre, ["Unknown output field: " ++ String.mk t ++ "\n"]) := by
  simpa [OutputFieldsSpec] using parseOutputFieldsLoop_spec (some fields) noFields [] rfl

theorem parse_output_fields_kernel_user :
    parseOutputFields "kernel,,user".toList =
      (0, ⟨false, false, true, false, false, false, true⟩, []) := by
  rw [(parse_output_fields_selects_named _).1 (by decide)]
  decide

end EfiBootGuard
