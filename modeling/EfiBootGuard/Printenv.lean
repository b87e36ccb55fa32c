import Mathlib.Data.List.Infix
import EfiBootGuard.OutputFields
import EfiBootGuard.Session

/-!
bg_printenv (bg_setenv.c, lines 515-537, 608-641, 662-699 and 784-841): its option parser, the
rule that at most one of `-c`, `-f` and `-p` chooses what is printed, and `dump_env` on the
record, or the records, chosen; and `main` (lines 974-981), which runs bg_setenv or bg_printenv
by the name the program is called by.

Out of compat mode `parse_common_opt` makes no `stat` call, so bg_printenv's parser is given no
directory test. What `dump_env` reads of a record besides its revision goes through the library
and is modelled from the spec (`EnvView`). The update state reaches `%u` and `ustate2str`
through their `uint8_t` parameters, so both see its low byte. The loop of `dump_envs` returns at
the first partition it cannot open.
-/

namespace EfiBootGuard

structure ArgumentsPrintenv where
  common : ArgumentsCommon
  current : Bool
  output_fields : Fields
deriving DecidableEq, Repr

abbrev Printenv := Cli ArgumentsPrintenv

def Printenv.init (allocs : List Bool) : Printenv :=
  ⟨⟨⟨none, false, 0, false⟩, false, ALL_FIELDS⟩, Mem.init allocs, []⟩

def parsePrintenvOpt (c : Consts) (key : Char) (arg : List Char) (s : Printenv) :
    Ret × Printenv :=
  match key with
  | 'c' => (.ret 0, { s with arguments := { s.arguments with current := true } })
  | 'o' =>
    let (e, output_fields, msgs) := parseOutputFields arg
    (.ret e, { s with arguments := { s.arguments with output_fields }, stderr := s.stderr ++ msgs })
  | '\x00' => (.exit EX_USAGE, s)
  | _ =>
    let r := parseCommonOpt c (fun _ => false) key arg false (s.withArguments s.arguments.common)
    (r.1, r.2.withArguments { s.arguments with common := r.2.arguments })

def selectedFields (init : Fields) (opts : List (Char × List Char)) : Fields :=
  opts.foldl (fun f o => if o.1 = 'o' then Fields.ofNames (o.2.splitOn ',') else f) init

theorem parsePrintenvOpt_common {c : Consts} {key : Char} {arg : List Char} {s : Printenv}
    (hc : key ≠ 'c') (ho : key ≠ 'o') (hz : key ≠ '\x00') :
    parsePrintenvOpt c key arg s =
      ((parseCommonOpt c (fun _ => false) key arg false (s.withArguments s.arguments.common)).1,
        (parseCommonOpt c (fun _ => false) key arg false
          (s.withArguments s.arguments.common)).2.withArguments
          { s.arguments with common := (parseCommonOpt c (fun _ => false) key arg false
              (s.withArguments s.arguments.common)).2.arguments }) := by
  unfold parsePrintenvOpt; split <;> simp_all

theorem parsePrintenvOpt_accepted {c : Consts} {key : Char} {arg : List Char} {s : Printenv}
    (h : (parsePrintenvOpt c key arg s).1 = .ret 0) :
    (parsePrintenvOpt c key arg s).2.arguments.output_fields =
        (if key = 'o' then Fields.ofNames (arg.splitOn ',') else s.arguments.output_fields) ∧
      (parsePrintenvOpt c key arg s).2.arguments.current = (s.arguments.current || key == 'c') ∧
      (parsePrintenvOpt c key arg s).2.arguments.common.envfilepath.isSome =
        (s.arguments.common.envfilepath.isSome || key == 'f') ∧
      (parsePrintenvOpt c key arg s).2.arguments.common.part_specified =
        (s.arguments.common.part_specified || key == 'p') ∧
      (parsePrintenvOpt c key arg s).2.arguments.common.which_part =
        (if key = 'p' then (parseInt arg).1 else s.arguments.common.which_part) ∧
      (parsePrintenvOpt c key arg s).2.arguments.common.envfilepath =
        (if key = 'f' then some arg else s.arguments.common.envfilepath) ∧
      (parsePrintenvOpt c key arg s).2.arguments.common.verbosity =
        (s.arguments.common.verbosity || key == 'v') := by
  by_cases hc : key = 'c'
  · subst hc; simp [parsePrintenvOpt]
  by_cases ho : key = 'o'
  · subst ho
    simp only [parsePrintenvOpt] at h ⊢
    rcases hp : parseOutputFields arg with ⟨e, f, msgs⟩
    rw [hp] at h
    obtain rfl : e = 0 := by simpa using h
    have h0 : (parseOutputFields arg).1 = 0 := by rw [hp]
    have hf := congrArg (·.1) (parseOutputFields_ok h0)
    simp only [hp] at hf
    simp [hf]
  by_cases hz : key = '\x00'
  · subst hz; simp [parsePrintenvOpt] at h
  rw [parsePrintenvOpt_common hc ho hz] at h ⊢
  obtain ⟨hf, hp, hw, hpath, hv⟩ := parseCommonOpt_targets _ key arg false _ h
  simp [hf, hp, hw, hc, ho, hv]
  simpa [envFilePath] using hpath

theorem argpParse_printenv {c : Consts} {opts : List (Char × List Char)} {s : Printenv}
    (h : (argpParse (parsePrintenvOpt c) opts s).1 = .ret 0) :
    (argpParse (parsePrintenvOpt c) opts s).2.arguments.output_fields =
        selectedFields s.arguments.output_fields opts ∧
      (argpParse (parsePrintenvOpt c) opts s).2.arguments.current =
        (s.arguments.current || opts.any (·.1 == 'c')) ∧
      (argpParse (parsePrintenvOpt c) opts s).2.arguments.common.envfilepath.isSome =
        (s.arguments.common.envfilepath.isSome || opts.any (·.1 == 'f')) ∧
      (argpParse (parsePrintenvOpt c) opts s).2.arguments.common.part_specified =
        (s.arguments.common.part_specified || opts.any (·.1 == 'p')) ∧
      (argpParse (parsePrintenvOpt c) opts s).2.arguments.common.which_part =
        selectedPart s.arguments.common.which_part opts ∧
      (argpParse (parsePrintenvOpt c) opts s).2.arguments.common.envfilepath =
        selectedPath c (fun _ => false) false s.arguments.common.envfilepath opts ∧
      (argpParse (parsePrintenvOpt c) opts s).2.arguments.common.verbosity =
        (s.arguments.common.verbosity || opts.any (·.1 == 'v')) := by
  induction opts generalizing s with
  | nil => simp [argpParse, selectedFields, selectedPart, selectedPath]
  | cons o opts ih =>
    obtain ⟨key, arg⟩ := o
    obtain ⟨h0, heq⟩ := argpParse_cons_accepted opts h
    rw [heq] at h ⊢
    obtain ⟨hf, hc, hp, hs, hw, hpath, hv⟩ := parsePrintenvOpt_accepted h0
    obtain ⟨ih1, ih2, ih3, ih4, ih5, ih6, ih7⟩ := ih h
    refine ⟨ih1.trans (by rw [hf]; rfl), ?_, ?_, ?_, ih5.trans (by rw [hw]; rfl),
      ih6.trans (by rw [hpath]; rfl), ?_⟩
    · rw [ih2, hc, List.any_cons, Bool.or_assoc]
    · rw [ih3, hp, List.any_cons, Bool.or_assoc]
    · rw [ih4, hs, List.any_cons, Bool.or_assoc]
    · rw [ih7, hv, List.any_cons, Bool.or_assoc]

def printenvKeys : List Char := ['f', 'p', 'v', 'V', 'c', 'o', '\x00']

theorem parsePrintenvOpt_declared {c : Consts} {key : Char} {arg : List Char} {s : Printenv}
    (h : (parsePrintenvOpt c key arg s).1 = .ret 0) : key ∈ printenvKeys := by
  unfold parsePrintenvOpt at h
  split at h
  case h_4 => rcases parseCommonOpt_declared h with rfl | rfl | rfl <;> decide
  all_goals decide

theorem argpParse_printenv_declared {c : Consts} {opts : List (Char × List Char)} {s : Printenv}
    (h : (argpParse (parsePrintenvOpt c) opts s).1 = .ret 0) : Declared printenvKeys opts :=
  argpParse_declared (fun _ _ _ => parsePrintenvOpt_declared) h

/-- Modelled from the spec: what `dump_env` reads of a record through env_api. -/
structure EnvView (L : Layout) where
  in_progress : BgEnvdata L → Bool
  kernelfile : BgEnvdata L → String
  kernelparams : BgEnvdata L → String
  watchdog_timeout_sec : BgEnvdata L → Nat
  ustate : BgEnvdata L → Nat
  dump_uservars : BgEnvdata L → List String

def EnvView.blank (L : Layout) : EnvView L :=
  ⟨fun _ => false, fun _ => "", fun _ => "", fun _ => 0, fun _ => 0, fun _ => []⟩

structure Printout where
  status : Nat
  stdout : List String
  stderr : List String
deriving DecidableEq, Repr

variable {L : Layout}

def dumpEnv (view : EnvView L) (env : BgEnvdata L) (output_fields : Fields) : List String :=
  ["Values:\n"] ++
  (if output_fields.in_progress then
    ["in_progress:      " ++ (if view.in_progress env then "yes" else "no") ++ "\n"] else []) ++
  (if output_fields.revision then ["revision:         " ++ toString env.revision ++ "\n"]
    else []) ++
  (if output_fields.kernel then ["kernel:           " ++ view.kernelfile env ++ "\n"] else []) ++
  (if output_fields.kernelargs then ["kernelargs:       " ++ view.kernelparams env ++ "\n"]
    else []) ++
  (if output_fields.wdog_timeout then
    ["watchdog timeout: " ++ toString (view.watchdog_timeout_sec env) ++ " seconds\n"] else []) ++
  (if output_fields.ustate then
    ["ustate:           " ++ toString (view.ustate env % 256) ++ " (" ++
      String.mk (ustate2str (view.ustate env % 256)) ++ ")\n"] else []) ++
  (if output_fields.user then "\n" :: "user variables:\n" :: view.dump_uservars env else []) ++
  ["\n\n"]

def partitionHeader (i : Nat) : List String :=
  ["\n----------------------------\n", " Config Partition #" ++ toString i ++ " "]

def dumpEnvsFrom (view : EnvView L) (store : Store L) (output_fields : Fields) (i : Nat) :
    Nat → List String × List String
  | 0 => ([], [])
  | n + 1 =>
    match store.open_by_index i with
    | none =>
      (partitionHeader i, ["Error, could not read environment for index " ++ toString i ++ "\n"])
    | some env =>
      let r := dumpEnvsFrom view store output_fields (i + 1) n
      (partitionHeader i ++ dumpEnv view env output_fields ++ r.1, r.2)

def dumpEnvs (c : Consts) (view : EnvView L) (store : Store L) (output_fields : Fields) :
    List String × List String :=
  dumpEnvsFrom view store output_fields 0 c.ENV_NUM_CONFIG_PARTS

def dumpLatestEnv (view : EnvView L) (store : Store L) (output_fields : Fields) :
    List String × List String :=
  match store.open_latest with
  | none => ([], ["Failed to retrieve latest environment.\n"])
  | some env => (dumpEnv view env output_fields, [])

def dumpEnvByIndex (view : EnvView L) (store : Store L) (index : Int) (output_fields : Fields) :
    List String × List String :=
  match store.open_by_index index with
  | none => ([], ["Failed to retrieve latest environment.\n"])
  | some env => (dumpEnv view env output_fields, [])

def partitionBlock (view : EnvView L) (store : Store L) (output_fields : Fields) (i : Nat) :
    List String :=
  partitionHeader i ++ ((store.open_by_index i).map (dumpEnv view · output_fields)).getD []

theorem dumpEnvsFrom_eq (view : EnvView L) (store : Store L) (output_fields : Fields) :
    ∀ (n i k : Nat), k ≤ n → (∀ j < k, (store.open_by_index ↑(i + j)).isSome) →
      (k < n → store.open_by_index ↑(i + k) = none) →
      dumpEnvsFrom view store output_fields i n =
        ((List.range (min n (k + 1))).flatMap (partitionBlock view store output_fields <| i + ·),
          if k < n then ["Error, could not read environment for index " ++ toString (i + k) ++ "\n"]
          else [])
  | 0, i, k, hk, _, _ => by
    obtain rfl : k = 0 := by omega
    rfl
  | n + 1, i, 0, _, _, hstop => by
    have h0 := hstop (by omega)
    simp only [Nat.add_zero] at h0
    simp [dumpEnvsFrom, h0, partitionBlock, List.range_succ]
  | n + 1, i, k + 1, hk, hread, hstop => by
    obtain ⟨env, henv⟩ := Option.isSome_iff_exists.1 (hread 0 (by omega))
    simp only [Nat.add_zero] at henv
    have ih := dumpEnvsFrom_eq view store output_fields n (i + 1) k (by omega)
      (fun j hj => by simpa only [Nat.add_right_comm, Nat.add_assoc] using hread (j + 1) (by omega))
      (fun hlt => by simpa only [Nat.add_right_comm, Nat.add_assoc] using hstop (by omega))
    have hmin : min (n + 1) (k + 1 + 1) = min n (k + 1) + 1 := by omega
    rw [dumpEnvsFrom, henv]
    simp only [ih, hmin, List.range_succ_eq_map, List.flatMap_cons, List.flatMap_map]
    simp [partitionBlock, henv, Nat.add_right_comm, Nat.add_assoc]

def bgPrintenv (c : Consts) (view : EnvView L) (files : Files) (store : Store L)
    (opts : List (Char × List Char)) (allocs : List Bool) : Printout :=
  match argpParse (parsePrintenvOpt c) opts (Printenv.init allocs) with
  | (.exit status, s) => ⟨status, [], s.stderr⟩
  | (.ret e, s) =>
    let arguments := s.arguments
    let common := arguments.common
    let counter := (if common.envfilepath.isSome then 1 else 0) +
      (if common.part_specified then 1 else 0) + (if arguments.current then 1 else 0)
    if e ≠ 0 then ⟨e, [], s.stderr⟩
    else if counter > 1 then ⟨1, [], s.stderr ++ ["Error, only one of -c/-f/-p can be set.\n"]⟩
    else match common.envfilepath with
    | some path =>
      let o := printenvFromFile L files path
      ⟨o.status, (o.record.map (dumpEnv view · arguments.output_fields)).getD [],
        s.stderr ++ getEnvStderr L files common.verbosity path ++ o.stderr⟩
    | none =>
      if !store.bgenv_init then ⟨1, [], s.stderr ++ ["Error initializing FAT environment.\n"]⟩
      else
        let out :=
          if arguments.current then
            let r := dumpLatestEnv view store arguments.output_fields
            ("Using latest config partition\n" :: r.1, r.2)
          else if common.part_specified then
            let r := dumpEnvByIndex view store common.which_part arguments.output_fields
            (("Using config partition #" ++ toString common.which_part ++ "\n") :: r.1, r.2)
          else dumpEnvs c view store arguments.output_fields
        ⟨0, out.1, s.stderr ++ out.2⟩


section Run

variable {c : Consts} {view : EnvView L} {files : Files} {store : Store L}
  {opts : List (Char × List Char)} {allocs : List Bool}

theorem argpParse_printenv_init
    (h : (argpParse (parsePrintenvOpt c) opts (Printenv.init allocs)).1 = .ret 0) :
    ∃ s, argpParse (parsePrintenvOpt c) opts (Printenv.init allocs) = (.ret 0, s) ∧
      s.arguments.output_fields = selectedFields ALL_FIELDS opts ∧
      s.arguments.current = opts.any (·.1 == 'c') ∧
      s.arguments.common.envfilepath.isSome = opts.any (·.1 == 'f') ∧
      s.arguments.common.part_specified = opts.any (·.1 == 'p') ∧
      s.arguments.common.which_part = selectedPart 0 opts ∧
      s.arguments.common.envfilepath = selectedPath c (fun _ => false) false none opts ∧
      s.arguments.common.verbosity = opts.any (·.1 == 'v') :=
  ⟨_, Prod.ext h rfl, by simpa [Printenv.init] using argpParse_printenv h⟩

theorem bgPrintenv_file (h : (argpParse (parsePrintenvOpt c) opts (Printenv.init allocs)).1 = .ret 0)
    (hcp : (opts.any (·.1 == 'c') || opts.any (·.1 == 'p')) = false) {path : List Char}
    (hpath : selectedPath c (fun _ => false) false none opts = some path) :
    bgPrintenv c view files store opts allocs =
      ⟨(printenvFromFile L files path).status,
        ((printenvFromFile L files path).record.map
          (dumpEnv view · (selectedFields ALL_FIELDS opts))).getD [],
        (argpParse (parsePrintenvOpt c) opts (Printenv.init allocs)).2.stderr ++
          getEnvStderr L files (opts.any (·.1 == 'v')) path ++ (printenvFromFile L files path).stderr⟩ := by
  obtain ⟨s, hr, hsel, hc, -, hpart, -, hfile, hv⟩ := argpParse_printenv_init h
  simp only [Bool.or_eq_false_iff] at hcp
  rw [hpath] at hfile
  simp [bgPrintenv, hr, hfile, hc, hcp.1, hpart, hcp.2, hsel, hv]

end Run

theorem printenv_rejects_two_targets (c : Consts) (view : EnvView L) (files : Files)
    (store : Store L) (opts : List (Char × List Char)) (allocs : List Bool)
    (h : (argpParse (parsePrintenvOpt c) opts (Printenv.init allocs)).1 = .ret 0)
    (h2 : 1 < (['c', 'f', 'p'].filter fun k => opts.any (·.1 == k)).length) :
    bgPrintenv c view files store opts allocs =
      ⟨1, [], (argpParse (parsePrintenvOpt c) opts (Printenv.init allocs)).2.stderr ++
        ["Error, only one of -c/-f/-p can be set.\n"]⟩ := by
  obtain ⟨s, hr, -, hc, hf, hp, -⟩ := argpParse_printenv_init h
  have hcount : (if s.arguments.common.envfilepath.isSome then 1 else 0) +
      (if s.arguments.common.part_specified then 1 else 0) +
      (if s.arguments.current then 1 else 0) > 1 := by
    rw [hc, hf, hp]
    simp only [List.filter_cons, List.filter_nil] at h2
    revert h2
    cases opts.any (·.1 == 'c') <;> cases opts.any (·.1 == 'f') <;> cases opts.any (·.1 == 'p') <;>
      simp
  simp only [bgPrintenv, hr, ne_eq, not_true_eq_false, if_false, hcount, if_true]

theorem printenv_rejects_two_targets_c_p :
    (argpParse (parsePrintenvOpt sampleConsts) [('c', []), ('p', "1".toList)]
        (Printenv.init [])).1 = .ret 0 ∧
      bgPrintenv sampleConsts (EnvView.blank sampleLayout) ⟨fun _ => none, fun _ => false, true, true, 0⟩
          ⟨true, none, none, fun _ => none, 0, 0, fun _ _ => true⟩ [('c', []), ('p', "1".toList)] [] =
        ⟨1, [], (argpParse (parsePrintenvOpt sampleConsts) [('c', []), ('p', "1".toList)]
          (Printenv.init [])).2.stderr ++ ["Error, only one of -c/-f/-p can be set.\n"]⟩ :=
  ⟨by decide, printenv_rejects_two_targets _ _ _ _ _ _ (by decide) (by decide)⟩

theorem printenv_rejects_unknown_field (c : Consts) (view : EnvView L) (files : Files)
    (store : Store L) (pre post : List (Char × List Char)) (list : List Char) (allocs : List Bool)
    (h : (argpParse (parsePrintenvOpt c) pre (Printenv.init allocs)).1 = .ret 0)
    (before : List (List Char)) (t : List Char) (after : List (List Char))
    (hsplit : list.splitOn ',' = before ++ t :: after) (hbefore : ∀ u ∈ before, FieldItem u)
    (ht : ¬ FieldItem t) :
    bgPrintenv c view files store (pre ++ ('o', list) :: post) allocs =
      ⟨1, [], (argpParse (parsePrintenvOpt c) pre (Printenv.init allocs)).2.stderr ++
        ["Unknown output field: " ++ String.mk t ++ "\n"]⟩ := by
  have hpo := (parseOutputFields_spec list).2 before t after hsplit hbefore ht
  have hret : (parsePrintenvOpt c 'o' list
      (argpParse (parsePrintenvOpt c) pre (Printenv.init allocs)).2).1 = .ret 1 := by
    simp [parsePrintenvOpt, hpo]
  unfold bgPrintenv
  rw [argpParse_append _ h, argpParse_cons_err _ (by rw [hret]; simp)]
  simp [parsePrintenvOpt, hpo]

theorem printenv_rejects_bogus_field :
    (argpParse (parsePrintenvOpt sampleConsts) [] (Printenv.init [])).1 = .ret 0 ∧
      "bogus".toList.splitOn ',' = [] ++ "bogus".toList :: [] ∧ ¬ FieldItem "bogus".toList ∧
      bgPrintenv sampleConsts (EnvView.blank sampleLayout) ⟨fun _ => none, fun _ => false, true, true, 0⟩
          ⟨true, none, none, fun _ => none, 0, 0, fun _ _ => true⟩ ([] ++ ('o', "bogus".toList) :: []) [] =
        ⟨1, [], (argpParse (parsePrintenvOpt sampleConsts) [] (Printenv.init [])).2.stderr ++
          ["Unknown output field: " ++ String.mk "bogus".toList ++ "\n"]⟩ :=
  ⟨rfl, by decide, by decide, printenv_rejects_unknown_field sampleConsts (EnvView.blank _) _ _ [] []
    "bogus".toList [] rfl [] _ [] (by decide) (by simp) (by decide)⟩

theorem printenv_store_mode_exits_zero (c : Consts) (view : EnvView L) (files : Files)
    (store : Store L) (opts : List (Char × List Char)) (allocs : List Bool)
    (h : (argpParse (parsePrintenvOpt c) opts (Printenv.init allocs)).1 = .ret 0)
    (hf : opts.any (·.1 == 'f') = false)
    (hcp : (opts.any (·.1 == 'c') && opts.any (·.1 == 'p')) = false)
    (hinit : store.bgenv_init = true) :
    (bgPrintenv c view files store opts allocs).status = 0 := by
  obtain ⟨s, hr, -, hc, hfile, hp, -⟩ := argpParse_printenv_init h
  have hnone : s.arguments.common.envfilepath = none :=
    Option.not_isSome_iff_eq_none.1 (by rw [hfile, hf]; simp)
  have hcount : ¬ (if s.arguments.common.envfilepath.isSome then 1 else 0) +
      (if s.arguments.common.part_specified then 1 else 0) +
      (if s.arguments.current then 1 else 0) > 1 := by
    rw [hc, hfile, hp, hf]
    revert hcp
    cases opts.any (·.1 == 'c') <;> cases opts.any (·.1 == 'p') <;> simp
  simp only [bgPrintenv, hr, ne_eq, not_true_eq_false, if_false]
  rw [if_neg hcount, hnone]
  simp [hinit]

theorem printenv_store_mode_exits_zero_empty_store :
    (argpParse (parsePrintenvOpt sampleConsts) [('c', [])] (Printenv.init [])).1 = .ret 0 ∧
      (bgPrintenv sampleConsts (EnvView.blank sampleLayout)
        ⟨fun _ => none, fun _ => false, true, true, 0⟩
        ⟨true, none, none, fun _ => none, 0, 0, fun _ _ => true⟩ [('c', [])] []).status = 0 :=
  ⟨by decide, printenv_store_mode_exits_zero _ _ _ _ _ _ (by decide) (by decide) (by decide) rfl⟩

theorem printenv_dumps_partitions_in_order (c : Consts) (view : EnvView L) (files : Files)
    (store : Store L) (opts : List (Char × List Char)) (allocs : List Bool)
    (h : (argpParse (parsePrintenvOpt c) opts (Printenv.init allocs)).1 = .ret 0)
    (hno : (opts.any (·.1 == 'c') || opts.any (·.1 == 'f') || opts.any (·.1 == 'p')) = false)
    (hinit : store.bgenv_init = true) (k : Nat) (hk : k ≤ c.ENV_NUM_CONFIG_PARTS)
    (hread : ∀ j < k, (store.open_by_index j).isSome)
    (hstop : k < c.ENV_NUM_CONFIG_PARTS → store.open_by_index k = none) :
    bgPrintenv c view files store opts allocs =
      ⟨0, (List.range (min c.ENV_NUM_CONFIG_PARTS (k + 1))).flatMap
          (partitionBlock view store (selectedFields ALL_FIELDS opts)),
        (argpParse (parsePrintenvOpt c) opts (Printenv.init allocs)).2.stderr ++
          if k < c.ENV_NUM_CONFIG_PARTS then
            ["Error, could not read environment for index " ++ toString k ++ "\n"]
          else []⟩ := by
  obtain ⟨s, hr, hsel, hc, hfile, hp, -⟩ := argpParse_printenv_init h
  simp only [Bool.or_eq_false_iff] at hno
  obtain ⟨⟨hc0, hf0⟩, hp0⟩ := hno
  have hnone : s.arguments.common.envfilepath = none :=
    Option.not_isSome_iff_eq_none.1 (by rw [hfile, hf0]; simp)
  have hloop := dumpEnvsFrom_eq view store s.arguments.output_fields c.ENV_NUM_CONFIG_PARTS 0 k hk
    (fun j hj => by simpa using hread j hj) (fun hlt => by simpa using hstop hlt)
  simp only [Nat.zero_add, hsel] at hloop
  simp [bgPrintenv, hr, hnone, hinit, hc, hc0, hp, hp0, dumpEnvs, hloop, hsel]

theorem printenv_dumps_first_partition :
    (argpParse (parsePrintenvOpt sampleConsts) [] (Printenv.init [])).1 = .ret 0 ∧
      bgPrintenv sampleConsts (EnvView.blank sampleLayout) ⟨fun _ => none, fun _ => false, true, true, 0⟩
          ⟨true, none, none, fun i => if i = 0 then some (BgEnvdata.zero _) else none,
            0, 0, fun _ _ => true⟩ [] [] =
        ⟨0, (List.range (min sampleConsts.ENV_NUM_CONFIG_PARTS (1 + 1))).flatMap
            (partitionBlock (EnvView.blank sampleLayout)
              ⟨true, none, none, fun i => if i = 0 then some (BgEnvdata.zero _) else none,
                0, 0, fun _ _ => true⟩ (selectedFields ALL_FIELDS [])),
          (argpParse (parsePrintenvOpt sampleConsts) [] (Printenv.init [])).2.stderr ++
            if 1 < sampleConsts.ENV_NUM_CONFIG_PARTS then
              ["Error, could not read environment for index " ++ toString 1 ++ "\n"]
            else []⟩ :=
  ⟨rfl, printenv_dumps_partitions_in_order sampleConsts (EnvView.blank _) _ _ [] [] rfl rfl rfl 1
    (by decide) (fun j hj => by obtain rfl : j = 0 := (by omega); rfl) (fun _ => rfl)⟩

theorem printenv_prints_chosen_partition (c : Consts) (view : EnvView L) (files : Files)
    (store : Store L) (opts : List (Char × List Char)) (allocs : List Bool)
    (h : (argpParse (parsePrintenvOpt c) opts (Printenv.init allocs)).1 = .ret 0)
    (hno : (opts.any (·.1 == 'c') || opts.any (·.1 == 'f')) = false)
    (hp : opts.any (·.1 == 'p') = true) (hinit : store.bgenv_init = true) :
    bgPrintenv c view files store opts allocs =
      ⟨0, ("Using config partition #" ++ toString (selectedPart 0 opts) ++ "\n") ::
          ((store.open_by_index (selectedPart 0 opts)).map
            (dumpEnv view · (selectedFields ALL_FIELDS opts))).getD [],
        (argpParse (parsePrintenvOpt c) opts (Printenv.init allocs)).2.stderr ++
          if (store.open_by_index (selectedPart 0 opts)).isSome then []
          else ["Failed to retrieve latest environment.\n"]⟩ := by
  obtain ⟨s, hr, hsel, hc, hfile, hpart, hw⟩ := argpParse_printenv_init h
  simp only [Bool.or_eq_false_iff] at hno
  obtain ⟨hc0, hf0⟩ := hno
  have hnone : s.arguments.common.envfilepath = none :=
    Option.not_isSome_iff_eq_none.1 (by rw [hfile, hf0]; simp)
  simp only [bgPrintenv, hr, hnone, hinit, hc, hc0, hpart, hp, hsel, hw, dumpEnvByIndex]
  cases store.open_by_index (selectedPart 0 opts) <;> rfl

theorem printenv_prints_partition_one :
    (argpParse (parsePrintenvOpt sampleConsts) [('p', "1".toList)] (Printenv.init [])).1 =
        .ret 0 ∧
      bgPrintenv sampleConsts (EnvView.blank sampleLayout) ⟨fun _ => none, fun _ => false, true, true, 0⟩
          ⟨true, none, none, fun i => if i = 1 then some (BgEnvdata.zero _) else none,
            0, 0, fun _ _ => true⟩ [('p', "1".toList)] [] =
        ⟨0, ("Using config partition #" ++ toString (selectedPart 0 [('p', "1".toList)]) ++ "\n") ::
            (((fun i => if i = 1 then some (BgEnvdata.zero sampleLayout) else none : Int → _)
              (selectedPart 0 [('p', "1".toList)])).map
              (dumpEnv (EnvView.blank sampleLayout) · (selectedFields ALL_FIELDS [('p', "1".toList)]))).getD [],
          (argpParse (parsePrintenvOpt sampleConsts) [('p', "1".toList)] (Printenv.init [])).2.stderr ++
            if ((fun i => if i = 1 then some (BgEnvdata.zero sampleLayout) else none : Int → _)
              (selectedPart 0 [('p', "1".toList)])).isSome then []
            else ["Failed to retrieve latest environment.\n"]⟩ :=
  ⟨by decide, printenv_prints_chosen_partition sampleConsts (EnvView.blank _) _
    ⟨true, none, none, fun i => if i = 1 then some (BgEnvdata.zero _) else none, 0, 0, fun _ _ => true⟩
    _ [] (by decide) (by decide) (by decide) rfl⟩

theorem printenv_prints_latest_partition (c : Consts) (view : EnvView L) (files : Files)
    (store : Store L) (opts : List (Char × List Char)) (allocs : List Bool)
    (h : (argpParse (parsePrintenvOpt c) opts (Printenv.init allocs)).1 = .ret 0)
    (hno : (opts.any (·.1 == 'f') || opts.any (·.1 == 'p')) = false)
    (hc : opts.any (·.1 == 'c') = true) (hinit : store.bgenv_init = true) :
    bgPrintenv c view files store opts allocs =
      ⟨0, "Using latest config partition\n" ::
          (store.open_latest.map (dumpEnv view · (selectedFields ALL_FIELDS opts))).getD [],
        (argpParse (parsePrintenvOpt c) opts (Printenv.init allocs)).2.stderr ++
          if store.open_latest.isSome then [] else ["Failed to retrieve latest environment.\n"]⟩ := by
  obtain ⟨s, hr, hsel, hcur, hfile, hpart, -⟩ := argpParse_printenv_init h
  simp only [Bool.or_eq_false_iff] at hno
  have hnone : s.arguments.common.envfilepath = none :=
    Option.not_isSome_iff_eq_none.1 (by rw [hfile, hno.1]; simp)
  simp only [bgPrintenv, hr, hnone, hinit, hcur, hc, hpart, hno.2, hsel, dumpLatestEnv]
  cases store.open_latest <;> rfl

theorem printenv_prints_latest_record :
    (argpParse (parsePrintenvOpt sampleConsts) [('c', [])] (Printenv.init [])).1 = .ret 0 ∧
      ([('c', ([] : List Char))].any (·.1 == 'f') || [('c', ([] : List Char))].any (·.1 == 'p')) = false ∧
      [('c', ([] : List Char))].any (·.1 == 'c') = true ∧
      bgPrintenv sampleConsts (EnvView.blank sampleLayout) ⟨fun _ => none, fun _ => false, true, true, 0⟩
          ⟨true, some (BgEnvdata.zero _), none, fun _ => none, 0, 0, fun _ _ => true⟩ [('c', [])] [] =
        ⟨0, "Using latest config partition\n" ::
            ((some (BgEnvdata.zero sampleLayout)).map
              (dumpEnv (EnvView.blank sampleLayout) · (selectedFields ALL_FIELDS [('c', [])]))).getD [],
          (argpParse (parsePrintenvOpt sampleConsts) [('c', [])] (Printenv.init [])).2.stderr ++
            if (some (BgEnvdata.zero sampleLayout)).isSome then []
            else ["Failed to retrieve latest environment.\n"]⟩ :=
  ⟨by decide, rfl, rfl, printenv_prints_latest_partition sampleConsts (EnvView.blank _) _
    ⟨true, some (BgEnvdata.zero _), none, fun _ => none, 0, 0, fun _ _ => true⟩ [('c', [])] [] (by decide)
    rfl rfl rfl⟩

inductive Run (L : Layout) where
  | setenv (o : Option (Outcome L))
  | printenv (p : Printout)

def main (c : Consts) (isDir : List Char → Bool) (api : EnvApi L) (view : EnvView L)
    (files : Files) (store : Store L) (argv0 : List Char) (opts : List (Char × List Char))
    (allocs : List Bool) : Run L :=
  if "bg_setenv".toList <:+: argv0 then .setenv (bgSetenv c isDir api files store opts allocs)
  else .printenv (bgPrintenv c view files store opts allocs)

theorem printenv_reads_back_setenv_file (c : Consts) (isDir : List Char → Bool)
    (api : EnvApi L) (view : EnvView L) (files : Files) (store : Store L)
    (opts : List (Char × List Char)) (allocs : List Bool) (opts' : List (Char × List Char))
    (allocs' : List Bool) {o : Outcome L} {d : BgEnvdata L} {path : List Char}
    (hs : bgSetenv c isDir api files store opts allocs = some o) (hd : o.record = some d)
    (hpath : selectedPath c isDir true none opts = some path)
    (h' : (argpParse (parsePrintenvOpt c) opts' (Printenv.init allocs')).1 = .ret 0)
    (hcp : (opts'.any (·.1 == 'c') || opts'.any (·.1 == 'p')) = false)
    (hpath' : selectedPath c (fun _ => false) false none opts' = some path) :
    files.fopen_wb path = true ∧ CrcValid d ∧
      bgPrintenv c view (files.write path d.bytes) store opts' allocs' =
        ⟨0, dumpEnv view d (selectedFields ALL_FIELDS opts'),
          (argpParse (parsePrintenvOpt c) opts' (Printenv.init allocs')).2.stderr⟩ := by
  obtain ⟨hopen, hcrc⟩ := bgSetenv_file_record hs hd hpath
  refine ⟨hopen, hcrc, ?_⟩
  rw [bgPrintenv_file h' hcp hpath', printenvFromFile, getEnv_write,
    getEnvStderr_of_getEnv (getEnv_write files path d)]
  simp

theorem printenv_reads_back_boot_file :
    bgSetenv sampleConsts (fun p => p == "boot".toList) (EnvApi.inert sampleLayout)
        ⟨fun _ => none, fun _ => true, true, true, 0⟩ ⟨false, none, none, fun _ => none, 0, 0, fun _ _ => false⟩
        [('f', "boot".toList)] [] =
      some ⟨0, some (freshCrc (BgEnvdata.zero sampleLayout)),
        ["WARNING: Using -f to specify only the ouptut directory is deprecated.\n"]⟩ ∧
    (⟨0, some (freshCrc (BgEnvdata.zero sampleLayout)),
        ["WARNING: Using -f to specify only the ouptut directory is deprecated.\n"]⟩ :
        Outcome sampleLayout).record =
      some (freshCrc (BgEnvdata.zero sampleLayout)) ∧
    selectedPath sampleConsts (fun p => p == "boot".toList) true none [('f', "boot".toList)] =
      some "boot/BGENV.DAT".toList ∧
    (argpParse (parsePrintenvOpt sampleConsts) [('f', "boot/BGENV.DAT".toList)]
      (Printenv.init [])).1 = .ret 0 ∧
    ([('f', "boot/BGENV.DAT".toList)].any (·.1 == 'c') ||
      [('f', "boot/BGENV.DAT".toList)].any (·.1 == 'p')) = false ∧
    selectedPath sampleConsts (fun _ => false) false none [('f', "boot/BGENV.DAT".toList)] =
      some "boot/BGENV.DAT".toList ∧
    (⟨fun _ => none, fun _ => true, true, true, 0⟩ : Files).fopen_wb "boot/BGENV.DAT".toList = true ∧
      CrcValid (freshCrc (BgEnvdata.zero sampleLayout)) ∧
      bgPrintenv sampleConsts (EnvView.blank sampleLayout)
          ((⟨fun _ => none, fun _ => true, true, true, 0⟩ : Files).write "boot/BGENV.DAT".toList
            (freshCrc (BgEnvdata.zero sampleLayout)).bytes)
          ⟨false, none, none, fun _ => none, 0, 0, fun _ _ => false⟩ [('f', "boot/BGENV.DAT".toList)] [] =
        ⟨0, dumpEnv (EnvView.blank sampleLayout) (freshCrc (BgEnvdata.zero sampleLayout))
            (selectedFields ALL_FIELDS [('f', "boot/BGENV.DAT".toList)]),
          (argpParse (parsePrintenvOpt sampleConsts) [('f', "boot/BGENV.DAT".toList)]
            (Printenv.init [])).2.stderr⟩ :=
  have hs : bgSetenv sampleConsts (fun p => p == "boot".toList) (EnvApi.inert sampleLayout)
      ⟨fun _ => none, fun _ => true, true, true, 0⟩ ⟨false, none, none, fun _ => none, 0, 0, fun _ _ => false⟩
      [('f', "boot".toList)] [] = some ⟨0, some (freshCrc (BgEnvdata.zero sampleLayout)),
        ["WARNING: Using -f to specify only the ouptut directory is deprecated.\n"]⟩ := rfl
  ⟨hs, rfl, by decide, by decide, rfl, rfl,
    printenv_reads_back_setenv_file sampleConsts _ _ (EnvView.blank sampleLayout) _ _ _ _ _ _ hs rfl
      (by decide) (by decide) rfl rfl⟩

theorem printenv_misses_setenv_directory_write (c : Consts) (isDir : List Char → Bool)
    (api : EnvApi L) (view : EnvView L) (files : Files) (store : Store L)
    (opts : List (Char × List Char)) (allocs : List Bool) (opts' : List (Char × List Char))
    (allocs' : List Bool) {o : Outcome L} {d : BgEnvdata L} {dir : List Char}
    (hs : bgSetenv c isDir api files store opts allocs = some o) (hd : o.record = some d)
    (hlast : selectedPath c (fun _ => false) false none opts = some dir) (hdir : isDir dir = true)
    (h' : (argpParse (parsePrintenvOpt c) opts' (Printenv.init allocs')).1 = .ret 0)
    (hcp : (opts'.any (·.1 == 'c') || opts'.any (·.1 == 'p')) = false)
    (hlast' : selectedPath c (fun _ => false) false none opts' = some dir) :
    files.fopen_wb (dir ++ '/' :: c.FAT_ENV_FILENAME) = true ∧
      bgPrintenv c view (files.write (dir ++ '/' :: c.FAT_ENV_FILENAME) d.bytes) store opts'
          allocs' =
        bgPrintenv c view files store opts' allocs' := by
  have hpath : selectedPath c isDir true none opts = some (dir ++ '/' :: c.FAT_ENV_FILENAME) := by
    simpa [hlast, envFilePath, hdir] using selectedPath_compat c isDir none opts
  have hne : dir ≠ dir ++ '/' :: c.FAT_ENV_FILENAME := fun h => by
    simpa using congrArg List.length h
  refine ⟨(bgSetenv_file_record hs hd hpath).1, ?_⟩
  rw [bgPrintenv_file h' hcp hlast', bgPrintenv_file h' hcp hlast', printenvFromFile,
    printenvFromFile, getEnv_write_of_ne _ _ hne, getEnvStderr_write_of_ne _ _ hne]

theorem printenv_misses_boot_directory_write :
    bgSetenv sampleConsts (fun p => p == "boot".toList) (EnvApi.inert sampleLayout)
        ⟨fun _ => none, fun _ => true, true, true, 0⟩ ⟨false, none, none, fun _ => none, 0, 0, fun _ _ => false⟩
        [('f', "boot".toList)] [] =
      some ⟨0, some (freshCrc (BgEnvdata.zero sampleLayout)),
        ["WARNING: Using -f to specify only the ouptut directory is deprecated.\n"]⟩ ∧
    (⟨0, some (freshCrc (BgEnvdata.zero sampleLayout)),
        ["WARNING: Using -f to specify only the ouptut directory is deprecated.\n"]⟩ :
        Outcome sampleLayout).record =
      some (freshCrc (BgEnvdata.zero sampleLayout)) ∧
    selectedPath sampleConsts (fun _ => false) false none [('f', "boot".toList)] =
      some "boot".toList ∧
    (fun p => p == "boot".toList) "boot".toList = true ∧
    (argpParse (parsePrintenvOpt sampleConsts) [('f', "boot".toList)] (Printenv.init [])).1 =
      .ret 0 ∧
    ([('f', "boot".toList)].any (·.1 == 'c') || [('f', "boot".toList)].any (·.1 == 'p')) = false ∧
    selectedPath sampleConsts (fun _ => false) false none [('f', "boot".toList)] =
      some "boot".toList ∧
    (⟨fun _ => none, fun _ => true, true, true, 0⟩ : Files).fopen_wb
        ("boot".toList ++ '/' :: sampleConsts.FAT_ENV_FILENAME) = true ∧
      bgPrintenv sampleConsts (EnvView.blank sampleLayout)
          ((⟨fun _ => none, fun _ => true, true, true, 0⟩ : Files).write
            ("boot".toList ++ '/' :: sampleConsts.FAT_ENV_FILENAME)
            (freshCrc (BgEnvdata.zero sampleLayout)).bytes)
          ⟨false, none, none, fun _ => none, 0, 0, fun _ _ => false⟩ [('f', "boot".toList)] [] =
        bgPrintenv sampleConsts (EnvView.blank sampleLayout) ⟨fun _ => none, fun _ => true, true, true, 0⟩
          ⟨false, none, none, fun _ => none, 0, 0, fun _ _ => false⟩ [('f', "boot".toList)] [] :=
  have hs : bgSetenv sampleConsts (fun p => p == "boot".toList) (EnvApi.inert sampleLayout)
      ⟨fun _ => none, fun _ => true, true, true, 0⟩ ⟨false, none, none, fun _ => none, 0, 0, fun _ _ => false⟩
      [('f', "boot".toList)] [] = some ⟨0, some (freshCrc (BgEnvdata.zero sampleLayout)),
        ["WARNING: Using -f to specify only the ouptut directory is deprecated.\n"]⟩ := rfl
  ⟨hs, rfl, rfl, rfl, by decide, rfl, rfl,
    printenv_misses_setenv_directory_write sampleConsts _ _ (EnvView.blank sampleLayout) _ _ _ _
      [('f', "boot".toList)] [] hs rfl rfl rfl (by decide) rfl rfl⟩

end EfiBootGuard
