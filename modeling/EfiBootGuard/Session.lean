import EfiBootGuard.Replay

/-!
The two back ends bg_setenv writes to: a stand-alone environment file (`get_env`,
`printenv_from_file`, `dumpenv_to_file`, bg_setenv.c lines 701-781) and the redundant store
behind env_api, with the auto-update clone of the latest record (`bg_setenv`, lines 843-973).

Both are modelled from the spec, through the outcome of each call bg_setenv.c makes on them.
`Files.contents` is what `fread` can read from the file `open_config_file (path, "rb")` opens,
`none` when it cannot be opened, and `Files.errno` what a failed call leaves; `Files.write` is a
successful `fwrite` and `fclose`. A store handle stands for a partition, and `bgenv_write` stores
a record in the partition of the handle it came from. `get_env` is `getEnv` and, for what it
writes to stderr, `getEnvStderr`; closing the file after the read is taken to succeed. An
`Outcome` is how bg_setenv ends: its status, the record it hands to `fwrite` or `bgenv_write`,
and its lines on stderr; `none` stands where replay would dereference `NULL`, and an empty
command line is `argc < 2`.
-/

namespace EfiBootGuard

/-- Modelled from the spec: the stand-alone environment files. -/
structure Files where
  contents : List Char → Option (List UInt8)
  fopen_wb : List Char → Bool
  fwrite_ok : Bool
  fclose_ok : Bool
  errno : Nat

/-- Modelled from the spec: the redundant store behind env_api. -/
structure Store (L : Layout) where
  bgenv_init : Bool
  open_latest : Option (BgEnvdata L)
  open_oldest : Option (BgEnvdata L)
  open_by_index : Int → Option (BgEnvdata L)
  latest_index : Int
  oldest_index : Int
  bgenv_write : Int → BgEnvdata L → Bool

structure Outcome (L : Layout) where
  status : Nat
  record : Option (BgEnvdata L)
  stderr : List String

def Files.write (files : Files) (path : List Char) (bytes : List UInt8) : Files :=
  { files with contents := fun p => if p = path then some bytes else files.contents p }

variable {L : Layout}

def getEnv (L : Layout) (files : Files) (configfilepath : List Char) : Option (BgEnvdata L) :=
  match files.contents configfilepath with
  | none => none
  | some bytes =>
    if h : L.size ≤ bytes.length then some ⟨bytes.take L.size, by simp; omega⟩ else none

/-- What `get_env` prints through `VERBOSE`, which `-v` turns on in the library. -/
def getEnvStderr (L : Layout) (files : Files) (verbosity : Bool) (configfilepath : List Char) :
    List String :=
  match verbosity, files.contents configfilepath with
  | true, some bytes =>
    if L.size ≤ bytes.length then []
    else ["Error reading environment data from " ++ String.mk configfilepath ++ "\n",
      "End of file encountered.\n"]
  | _, _ => []

def printenvFromFile (L : Layout) (files : Files) (envfilepath : List Char) : Outcome L :=
  match getEnv L files envfilepath with
  | some data => ⟨0, some data, []⟩
  | none => ⟨1, none, ["Error reading environment file.\n"]⟩

def writeEnvFile (files : Files) (envfilepath : List Char) (data : BgEnvdata L) : Outcome L :=
  if files.fopen_wb envfilepath then
    let written : Nat × List String :=
      if files.fwrite_ok then (0, [])
      else (1, ["Error writing to output file: " ++ strerror files.errno ++ "\n"])
    let closed : Nat × List String :=
      if files.fclose_ok then written else (1, written.2 ++ ["Error closing output file.\n"])
    ⟨closed.1, some data, closed.2⟩
  else
    ⟨1, none, ["Error opening output file " ++ String.mk envfilepath ++ " (" ++
      strerror files.errno ++ ").\n"]⟩

def dumpenvToFile (api : EnvApi L) (files : Files) (envfilepath : List Char)
    (preserve_env : Bool) (m : Mem) : Option (Outcome L) :=
  let data := if preserve_env then getEnv L files envfilepath else some (BgEnvdata.zero L)
  match data with
  | none => some ⟨1, none, []⟩
  | some data => (updateEnvironment api m data).map fun r => writeEnvFile files envfilepath r.2

def openTarget (store : Store L) (arguments : ArgumentsSetenv) :
    Except String (Int × BgEnvdata L) :=
  if arguments.auto_update then
    match store.open_latest, store.open_oldest with
    | none, _ => .error "Failed to retrieve latest environment.\n"
    | some _, none => .error "Failed to retrieve oldest environment.\n"
    | some current, some _ => .ok (store.oldest_index, current.setRevision (current.revision + 1))
  else
    let env_new := if arguments.common.part_specified then
      (store.open_by_index arguments.common.which_part).map (arguments.common.which_part, ·)
      else store.open_latest.map (store.latest_index, ·)
    match env_new with
    | none => .error "Failed to retrieve environment by index.\n"
    | some env => .ok env

def updateStore (api : EnvApi L) (store : Store L) (arguments : ArgumentsSetenv) (m : Mem) :
    Option (Outcome L) :=
  match openTarget store arguments with
  | .error msg => some ⟨1, none, [msg]⟩
  | .ok (slot, env) =>
    (updateEnvironment api m env).map fun r =>
      if store.bgenv_write slot r.2 then ⟨0, some r.2, []⟩
      else ⟨1, some r.2, ["Error storing environment.\n"]⟩

def bgSetenv (c : Consts) (isDir : List Char → Bool) (api : EnvApi L) (files : Files)
    (store : Store L) (opts : List (Char × List Char)) (allocs : List Bool) :
    Option (Outcome L) :=
  if opts = [] then some ⟨1, none, []⟩ else
  match argpParse (parseSetenvOpt c isDir) opts (Setenv.init allocs) with
  | (.exit status, s) => some ⟨status, none, s.stderr⟩
  | (.ret e, s) =>
    if e ≠ 0 then some ⟨e, none, s.stderr⟩
    else if s.arguments.auto_update ∧ s.arguments.common.part_specified then
      some ⟨1, none, s.stderr ++ ["Error, both automatic and manual partition selection. " ++
        "Cannot use -p and -u simultaneously.\n"]⟩
    else match s.arguments.common.envfilepath with
    | some path =>
      (dumpenvToFile api files path s.arguments.preserve_env s.mem).map fun o =>
        { o with stderr := s.stderr ++ (if s.arguments.preserve_env then
            getEnvStderr L files s.arguments.common.verbosity path else []) ++ o.stderr }
    | none =>
      if !store.bgenv_init then
        some ⟨1, none, s.stderr ++ ["Error initializing FAT environment.\n"]⟩
      else (updateStore api store s.arguments s.mem).map fun o =>
        { o with stderr := s.stderr ++ o.stderr }

theorem getEnv_eq_some {files : Files} {path : List Char} {d : BgEnvdata L} :
    getEnv L files path = some d ↔
      ∃ bytes, files.contents path = some bytes ∧ L.size ≤ bytes.length ∧
        d.bytes = bytes.take L.size := by
  unfold getEnv
  split
  next hc => simp [hc]
  next bytes hc =>
    split_ifs with hl
    · refine ⟨fun h => ⟨bytes, hc, hl, by cases h; rfl⟩, fun ⟨b, hb, _, hd⟩ => ?_⟩
      obtain rfl : bytes = b := Option.some.inj (hc.symm.trans hb)
      exact congrArg some (BgEnvdata.ext hd.symm)
    · simp [hc, hl]

theorem getEnv_write (files : Files) (path : List Char) (d : BgEnvdata L) :
    getEnv L (files.write path d.bytes) path = some d :=
  getEnv_eq_some.2
    ⟨d.bytes, by simp [Files.write], d.length_eq.ge, (List.take_of_length_le d.length_eq.le).symm⟩

theorem getEnv_write_of_ne (files : Files) {path p : List Char} (bytes : List UInt8)
    (h : p ≠ path) : getEnv L (files.write path bytes) p = getEnv L files p := by
  simp only [getEnv, Files.write, if_neg h]

theorem getEnvStderr_of_getEnv {files : Files} {path : List Char} {d : BgEnvdata L}
    (h : getEnv L files path = some d) (verbosity : Bool) : getEnvStderr L files verbosity path = [] := by
  obtain ⟨bytes, hb, hlen, -⟩ := getEnv_eq_some.1 h
  cases verbosity <;> simp [getEnvStderr, hb, hlen]

example : getEnvStderr sampleLayout ⟨fun _ => some [1, 2, 3], fun _ => false, true, true, 0⟩ true
    "env".toList = ["Error reading environment data from env\n", "End of file encountered.\n"] := by
  decide

theorem getEnvStderr_write_of_ne (files : Files) {path p : List Char} (bytes : List UInt8)
    (h : p ≠ path) (verbosity : Bool) :
    getEnvStderr L (files.write path bytes) verbosity p = getEnvStderr L files verbosity p := by
  simp only [getEnvStderr, Files.write, if_neg h]

theorem updateEnvironment_init (api : EnvApi L) (allocs : List Bool) (env : BgEnvdata L) :
    updateEnvironment api (Mem.init allocs) env = some (Mem.init allocs, freshCrc env) := rfl

theorem auto_update_wraps_revision (c : Consts) (isDir : List Char → Bool) (api : EnvApi L)
    (files : Files) (d old : BgEnvdata L) (latest_index oldest_index : Int) :
    ∃ o, bgSetenv c isDir api files ⟨true, some (d.setRevision 4294967295), some old,
        fun _ => none, latest_index, oldest_index, fun _ _ => true⟩
        [('u', [])] [] = some o ∧ o.status = 0 ∧ o.record.map BgEnvdata.revision = some 0 := by
  refine ⟨_, rfl, rfl, ?_⟩
  simp [BgEnvdata.revision_setRevision]

theorem auto_update_writes_next_revision (api : EnvApi L) (store : Store L)
    (arguments : ArgumentsSetenv) {m : Mem} {ps : List Nat} {xs : List EnvAction}
    (h : Queue m ps xs) (hwf : ∀ a ∈ xs, WellFormed a)
    (hk : ∀ a ∈ xs, a.key ≠ some "revision".toList) (hauto : arguments.auto_update = true)
    {current old : BgEnvdata L} (hl : store.open_latest = some current)
    (ho : store.open_oldest = some old) :
    ∃ o d, updateStore api store arguments m = some o ∧ o.record = some d ∧
      d.revision = current.revision + 1 ∧
      (current.revision < d.revision ↔ current.revision ≠ 4294967295) := by
  obtain ⟨es, hes⟩ := exists_effects hwf
  have ht : openTarget store arguments =
      .ok (store.oldest_index, current.setRevision (current.revision + 1)) := by
    simp [openTarget, hauto, hl, ho]
  obtain ⟨m', hupd, -, -⟩ := updateEnvironment_queue api h hes (current.setRevision (current.revision + 1))
  have hrev : (freshCrc (es.foldl api.apply (current.setRevision (current.revision + 1)))).revision =
      current.revision + 1 := by
    rw [freshCrc_revision, foldl_apply_revision api hes hk, BgEnvdata.revision_setRevision]
  refine ⟨_, _, by simp only [updateStore, ht, hupd, Option.map_some']; rfl, ?_, hrev, ?_⟩
  · split_ifs <;> rfl
  · rw [hrev]; exact u32_lt_add_one_iff _

theorem auto_update_writes_next_revision_after_testing :
    Queue (journalAddAction .ENV_TASK_SET (some "ustate".toList) 0 (some "2\x00".toList) 2
        (Mem.init [])).2 [0] [newAction .ENV_TASK_SET (some "ustate".toList) 0 (some "2\x00".toList) 2] ∧
      ∃ o d, updateStore (EnvApi.inert sampleLayout)
          ⟨true, some ((BgEnvdata.zero _).setRevision 7), some (BgEnvdata.zero _), fun _ => none, 0, 1,
            fun _ _ => true⟩
          ⟨⟨none, false, 0, false⟩, true, false⟩
          (journalAddAction .ENV_TASK_SET (some "ustate".toList) 0 (some "2\x00".toList) 2
            (Mem.init [])).2 = some o ∧ o.record = some d ∧
        d.revision = ((BgEnvdata.zero sampleLayout).setRevision 7).revision + 1 ∧
        (((BgEnvdata.zero sampleLayout).setRevision 7).revision < d.revision ↔
          ((BgEnvdata.zero sampleLayout).setRevision 7).revision ≠ 4294967295) := by
  have hq := Queue.add_init [] .ENV_TASK_SET (some "ustate".toList) 0 (some "2\x00".toList) 2 rfl
  have hwf : ∀ a ∈ [newAction .ENV_TASK_SET (some "ustate".toList) 0 (some "2\x00".toList) 2],
      WellFormed a := optionActions_wellFormed sampleConsts 's' "testing".toList
  exact ⟨hq, auto_update_writes_next_revision _ _ _ hq hwf (by decide) rfl rfl rfl⟩

theorem auto_update_copies_latest (c : Consts) (isDir : List Char → Bool) (api : EnvApi L)
    (files : Files) (current old : BgEnvdata L) (open_by_index : Int → Option (BgEnvdata L))
    (latest_index oldest_index : Int) (bgenv_write : Int → BgEnvdata L → Bool) :
    ∃ o d, bgSetenv c isDir api files
        ⟨true, some current, some old, open_by_index, latest_index, oldest_index, bgenv_write⟩
        [('u', [])] [] = some o ∧ o.record = some d ∧
      o.status = (if bgenv_write oldest_index d then 0 else 1) ∧ d.revision = current.revision + 1 ∧
      CrcValid d ∧ ∀ i, i < L.revisionOff ∨ L.revisionOff + 4 ≤ i ∧ i < L.size - 4 →
        d.bytes[i]? = current.bytes[i]? := by
  refine ⟨_, freshCrc (current.setRevision (current.revision + 1)), rfl, ?_, ?_, by simp,
    freshCrc_valid _, fun i hi => ?_⟩
  · show (if bgenv_write _ _ then _ else _ : Outcome L).record = _
    split <;> rfl
  · show (if bgenv_write _ _ then _ else _ : Outcome L).status = _
    split <;> rfl
  · have hcrc : i < L.size - 4 := by have := L.revision_before_crc32; omega
    rw [freshCrc, BgEnvdata.getElem?_setCrc32 _ _ hcrc,
      BgEnvdata.getElem?_setRevision _ _ (hi.imp_right And.left)]

theorem argpParse_setenv_journal {c : Consts} {isDir : List Char → Bool}
    {opts : List (Char × List Char)} {allocs : List Bool}
    (h : (argpParse (parseSetenvOpt c isDir) opts (Setenv.init allocs)).1 = .ret 0) :
    ∃ (ps : List Nat) (es : List Effect),
      Queue (argpParse (parseSetenvOpt c isDir) opts (Setenv.init allocs)).2.mem ps
        (opts.flatMap fun o => optionActions c o.1 o.2) ∧
      (opts.flatMap fun o => optionActions c o.1 o.2).map journalProcessAction = es.map some := by
  obtain ⟨k, ps, hq, hk⟩ :=
    argpParse_journal (c := c) (s := Setenv.init allocs) (Queue.init allocs) isDir opts
  rw [hk h, List.take_length, List.nil_append] at hq
  have hwf : ∀ a ∈ opts.flatMap fun o => optionActions c o.1 o.2, WellFormed a := fun a ha => by
    obtain ⟨o, -, ha⟩ := List.mem_flatMap.1 ha
    exact optionActions_wellFormed c o.1 o.2 a ha
  obtain ⟨es, hes⟩ := exists_effects hwf
  exact ⟨ps, es, hq, hes⟩

theorem bgSetenv_store_target (c : Consts) (isDir : List Char → Bool) (api : EnvApi L)
    (files : Files) (store : Store L) (opts : List (Char × List Char)) (allocs : List Bool)
    (hne : opts ≠ []) (h : (argpParse (parseSetenvOpt c isDir) opts (Setenv.init allocs)).1 = .ret 0)
    (hf0 : opts.any (·.1 == 'f') = false)
    (hup : (opts.any (·.1 == 'u') && opts.any (·.1 == 'p')) = false)
    (hinit : store.bgenv_init = true) {slot : Int} {env : BgEnvdata L}
    (ht : openTarget store
      (argpParse (parseSetenvOpt c isDir) opts (Setenv.init allocs)).2.arguments = .ok (slot, env)) :
    ∃ (es : List Effect) (o : Outcome L),
      (opts.flatMap fun o => optionActions c o.1 o.2).map journalProcessAction = es.map some ∧
      bgSetenv c isDir api files store opts allocs = some o ∧
      o.record = some (freshCrc (es.foldl api.apply env)) ∧
      o.status = if store.bgenv_write slot (freshCrc (es.foldl api.apply env)) then 0 else 1 := by
  obtain ⟨ps, es, hq, hes⟩ := argpParse_setenv_journal h
  obtain ⟨m', hupd, -, -⟩ := updateEnvironment_queue api hq hes env
  obtain ⟨hu, hf, hp, -⟩ := argpParse_setenv_targets h
  generalize hs : (argpParse (parseSetenvOpt c isDir) opts (Setenv.init allocs)).2 = s
    at hu hf hp hupd ht
  have hr : argpParse (parseSetenvOpt c isDir) opts (Setenv.init allocs) = (.ret 0, s) :=
    Prod.ext h hs
  simp only [Setenv.init, Option.isSome_none, Bool.false_or, hf0] at hu hf hp
  have hnone : s.arguments.common.envfilepath = none :=
    Option.not_isSome_iff_eq_none.1 (by simp [hf])
  have hboth : ¬(s.arguments.auto_update = true ∧ s.arguments.common.part_specified = true) := by
    rw [hu, hp]; rintro ⟨h1, h2⟩; rw [h1, h2] at hup; cases hup
  have hb : bgSetenv c isDir api files store opts allocs =
      (updateStore api store s.arguments s.mem).map
        fun o => { o with stderr := s.stderr ++ o.stderr } := by
    simp only [bgSetenv, if_neg hne, hr, ne_eq, not_true_eq_false, if_false, if_neg hboth, hnone,
      hinit, Bool.not_true]
    rfl
  simp only [updateStore, ht, hupd, Option.map_some'] at hb
  refine ⟨es, _, hes, hb, ?_, ?_⟩ <;> split <;> rfl

theorem setenv_stores_options_in_order (c : Consts) (isDir : List Char → Bool) (api : EnvApi L)
    (files : Files) (store : Store L) (opts : List (Char × List Char)) (allocs : List Bool)
    (hne : opts ≠ []) (h : (argpParse (parseSetenvOpt c isDir) opts (Setenv.init allocs)).1 = .ret 0)
    (hno : (opts.any (·.1 == 'u') || opts.any (·.1 == 'f') || opts.any (·.1 == 'p')) = false)
    (hinit : store.bgenv_init = true) {env : BgEnvdata L} (hl : store.open_latest = some env) :
    ∃ (es : List Effect) (o : Outcome L),
      (opts.flatMap fun o => optionActions c o.1 o.2).map journalProcessAction = es.map some ∧
      bgSetenv c isDir api files store opts allocs = some o ∧
      o.record = some (freshCrc (es.foldl api.apply env)) ∧
      o.status =
        if store.bgenv_write store.latest_index (freshCrc (es.foldl api.apply env)) then 0 else 1 := by
  simp only [Bool.or_eq_false_iff] at hno
  obtain ⟨⟨hu0, hf0⟩, hp0⟩ := hno
  obtain ⟨hu, -, hp, -⟩ := argpParse_setenv_targets h
  refine bgSetenv_store_target c isDir api files store opts allocs hne h hf0 (by simp [hu0]) hinit ?_
  generalize (argpParse (parseSetenvOpt c isDir) opts (Setenv.init allocs)).2 = s at hu hp ⊢
  simp only [Setenv.init, Bool.false_or, hu0, hp0] at hu hp
  simp [openTarget, hu, hp, hl]

theorem setenv_stores_testing_state :
    (argpParse (parseSetenvOpt sampleConsts fun _ => false) [('s', "testing".toList)]
        (Setenv.init [])).1 = .ret 0 ∧
      ∃ (es : List Effect) (o : Outcome sampleLayout),
        ([('s', "testing".toList)].flatMap fun o => optionActions sampleConsts o.1 o.2).map
          journalProcessAction = es.map some ∧
        bgSetenv sampleConsts (fun _ => false) (EnvApi.inert sampleLayout)
          ⟨fun _ => none, fun _ => true, true, true, 0⟩
          ⟨true, some (BgEnvdata.zero _), none, fun _ => none, 0, 0, fun _ _ => true⟩
          [('s', "testing".toList)] [] = some o ∧
        o.record = some (freshCrc (es.foldl (EnvApi.inert sampleLayout).apply
          (BgEnvdata.zero sampleLayout))) ∧
        o.status = 0 :=
  ⟨by decide, setenv_stores_options_in_order sampleConsts (fun _ => false) _ _
    ⟨true, some (BgEnvdata.zero _), none, fun _ => none, 0, 0, fun _ _ => true⟩ _ [] (by simp) (by decide)
    (by decide) rfl rfl⟩

theorem setenv_stores_to_chosen_partition (c : Consts) (isDir : List Char → Bool)
    (api : EnvApi L) (files : Files) (store : Store L) (opts : List (Char × List Char))
    (allocs : List Bool) (h : (argpParse (parseSetenvOpt c isDir) opts (Setenv.init allocs)).1 = .ret 0)
    (hno : (opts.any (·.1 == 'u') || opts.any (·.1 == 'f')) = false)
    (hp : opts.any (·.1 == 'p') = true) (hinit : store.bgenv_init = true) {env : BgEnvdata L}
    (hl : store.open_by_index (selectedPart 0 opts) = some env) :
    ∃ (es : List Effect) (o : Outcome L),
      (opts.flatMap fun o => optionActions c o.1 o.2).map journalProcessAction = es.map some ∧
      bgSetenv c isDir api files store opts allocs = some o ∧
      o.record = some (freshCrc (es.foldl api.apply env)) ∧
      o.status = if store.bgenv_write (selectedPart 0 opts) (freshCrc (es.foldl api.apply env))
        then 0 else 1 := by
  simp only [Bool.or_eq_false_iff] at hno
  obtain ⟨hu0, hf0⟩ := hno
  have hne : opts ≠ [] := by rintro rfl; cases hp
  obtain ⟨hu, -, hpart, hw, -⟩ := argpParse_setenv_targets h
  refine bgSetenv_store_target c isDir api files store opts allocs hne h hf0 (by simp [hu0]) hinit ?_
  generalize (argpParse (parseSetenvOpt c isDir) opts (Setenv.init allocs)).2 = s at hu hpart hw ⊢
  simp only [Setenv.init, Bool.false_or, hu0, hp] at hu hpart hw
  simp [openTarget, hu, hpart, hw, hl]

theorem setenv_stores_to_partition_one :
    (argpParse (parseSetenvOpt sampleConsts fun _ => false) [('p', "1".toList), ('c', [])]
        (Setenv.init [])).1 = .ret 0 ∧
      ∃ (es : List Effect) (o : Outcome sampleLayout),
        ([('p', "1".toList), ('c', [])].flatMap fun o => optionActions sampleConsts o.1 o.2).map
          journalProcessAction = es.map some ∧
        bgSetenv sampleConsts (fun _ => false) (EnvApi.inert sampleLayout)
          ⟨fun _ => none, fun _ => true, true, true, 0⟩
          ⟨true, none, none, fun i => if i = 1 then some (BgEnvdata.zero _) else none,
            0, 0, fun i _ => i == 1⟩
          [('p', "1".toList), ('c', [])] [] = some o ∧
        o.record = some (freshCrc (es.foldl (EnvApi.inert sampleLayout).apply
          (BgEnvdata.zero sampleLayout))) ∧
        o.status = 0 :=
  ⟨by decide, setenv_stores_to_chosen_partition sampleConsts (fun _ => false) _ _
    ⟨true, none, none, fun i => if i = 1 then some (BgEnvdata.zero _) else none, 0, 0,
      fun i _ => i == 1⟩
    _ [] (by decide) (by decide) (by decide) rfl (by decide)⟩

theorem setenv_auto_update_applies_options (c : Consts) (isDir : List Char → Bool)
    (api : EnvApi L) (files : Files) (store : Store L) (opts : List (Char × List Char))
    (allocs : List Bool) (h : (argpParse (parseSetenvOpt c isDir) opts (Setenv.init allocs)).1 = .ret 0)
    (hno : (opts.any (·.1 == 'f') || opts.any (·.1 == 'p')) = false)
    (hu : opts.any (·.1 == 'u') = true) (hinit : store.bgenv_init = true)
    {current old : BgEnvdata L} (hl : store.open_latest = some current)
    (ho : store.open_oldest = some old) :
    ∃ (es : List Effect) (o : Outcome L),
      (opts.flatMap fun o => optionActions c o.1 o.2).map journalProcessAction = es.map some ∧
      bgSetenv c isDir api files store opts allocs = some o ∧
      o.record = some (freshCrc (es.foldl api.apply (current.setRevision (current.revision + 1)))) ∧
      o.status = if store.bgenv_write store.oldest_index
        (freshCrc (es.foldl api.apply (current.setRevision (current.revision + 1)))) then 0 else 1 := by
  simp only [Bool.or_eq_false_iff] at hno
  have hne : opts ≠ [] := by rintro rfl; cases hu
  obtain ⟨hauto, -⟩ := argpParse_setenv_targets h
  refine bgSetenv_store_target c isDir api files store opts allocs hne h hno.1 (by simp [hno.2])
    hinit ?_
  generalize (argpParse (parseSetenvOpt c isDir) opts (Setenv.init allocs)).2 = s at hauto ⊢
  simp only [Setenv.init, Bool.false_or, hu] at hauto
  simp [openTarget, hauto, hl, ho]

theorem setenv_auto_update_testing_state :
    (argpParse (parseSetenvOpt sampleConsts fun _ => false) [('u', []), ('s', "testing".toList)]
        (Setenv.init [])).1 = .ret 0 ∧
      ([('u', ([] : List Char)), ('s', "testing".toList)].any (·.1 == 'f') ||
        [('u', ([] : List Char)), ('s', "testing".toList)].any (·.1 == 'p')) = false ∧
      [('u', ([] : List Char)), ('s', "testing".toList)].any (·.1 == 'u') = true ∧
      ∃ (es : List Effect) (o : Outcome sampleLayout),
        ([('u', []), ('s', "testing".toList)].flatMap fun o => optionActions sampleConsts o.1 o.2).map
          journalProcessAction = es.map some ∧
        bgSetenv sampleConsts (fun _ => false) (EnvApi.inert sampleLayout)
          ⟨fun _ => none, fun _ => true, true, true, 0⟩
          ⟨true, some ((BgEnvdata.zero _).setRevision 7), some (BgEnvdata.zero _), fun _ => none,
            0, 1, fun i _ => i == 1⟩
          [('u', []), ('s', "testing".toList)] [] = some o ∧
        o.record = some (freshCrc (es.foldl (EnvApi.inert sampleLayout).apply
          (((BgEnvdata.zero sampleLayout).setRevision 7).setRevision
            (((BgEnvdata.zero sampleLayout).setRevision 7).revision + 1)))) ∧
        o.status = 0 :=
  ⟨by decide, rfl, rfl, setenv_auto_update_applies_options sampleConsts (fun _ => false) _ _
    ⟨true, some ((BgEnvdata.zero _).setRevision 7), some (BgEnvdata.zero _), fun _ => none,
            0, 1, fun i _ => i == 1⟩
    [('u', []), ('s', "testing".toList)] [] (by decide) rfl rfl rfl rfl rfl⟩

theorem printenvFromFile_record (files : Files) (path : List Char) :
    (printenvFromFile L files path).record = getEnv L files path := by
  unfold printenvFromFile; split <;> simp_all

theorem writeEnvFile_record (files : Files) (path : List Char) (data : BgEnvdata L) :
    (writeEnvFile files path data).record = if files.fopen_wb path then some data else none := by
  unfold writeEnvFile; split_ifs <;> rfl

theorem dumpenvToFile_record (api : EnvApi L) (files : Files) (path : List Char)
    (preserve_env : Bool) {m : Mem} {ps : List Nat} {xs : List EnvAction} {es : List Effect}
    (h : Queue m ps xs) (hes : xs.map journalProcessAction = es.map some) :
    ∃ o, dumpenvToFile api files path preserve_env m = some o ∧
      o.record = if files.fopen_wb path then
        (if preserve_env then getEnv L files path else some (BgEnvdata.zero L)).map
          fun d => freshCrc (es.foldl api.apply d)
        else none := by
  simp only [dumpenvToFile]
  generalize (if preserve_env then getEnv L files path else some (BgEnvdata.zero L)) = data
  cases data with
  | none => exact ⟨_, rfl, by split <;> rfl⟩
  | some d =>
    obtain ⟨m', hupd, -, -⟩ := updateEnvironment_queue api h hes d
    exact ⟨writeEnvFile files path (freshCrc (es.foldl api.apply d)), by simp [hupd],
      by simp [writeEnvFile_record]⟩

theorem bgSetenv_file_mode {c : Consts} {isDir : List Char → Bool} {api : EnvApi L}
    {files : Files} {store : Store L} {opts : List (Char × List Char)} {allocs : List Bool}
    (h : (argpParse (parseSetenvOpt c isDir) opts (Setenv.init allocs)).1 = .ret 0)
    (hup : (opts.any (·.1 == 'u') && opts.any (·.1 == 'p')) = false) {path : List Char}
    (hpath : selectedPath c isDir true none opts = some path) :
    bgSetenv c isDir api files store opts allocs =
      (dumpenvToFile api files path (opts.any (·.1 == 'P'))
        (argpParse (parseSetenvOpt c isDir) opts (Setenv.init allocs)).2.mem).map
        fun o => { o with stderr :=
          (argpParse (parseSetenvOpt c isDir) opts (Setenv.init allocs)).2.stderr ++
            (if opts.any (·.1 == 'P') then getEnvStderr L files (opts.any (·.1 == 'v')) path
            else []) ++ o.stderr } := by
  have hne : opts ≠ [] := by rintro rfl; simp [selectedPath] at hpath
  obtain ⟨hu, -, hp, -, hf, hP, hv⟩ := argpParse_setenv_targets h
  generalize hs : (argpParse (parseSetenvOpt c isDir) opts (Setenv.init allocs)).2 = s
    at hu hp hf hP hv ⊢
  have hr : argpParse (parseSetenvOpt c isDir) opts (Setenv.init allocs) = (.ret 0, s) :=
    Prod.ext h hs
  simp only [Setenv.init, Bool.false_or, hpath] at hu hp hf hP hv
  have hboth : ¬(s.arguments.auto_update = true ∧ s.arguments.common.part_specified = true) := by
    rw [hu, hp]; rintro ⟨h1, h2⟩; rw [h1, h2] at hup; cases hup
  simp only [bgSetenv, if_neg hne, hr, ne_eq, not_true_eq_false, if_false, if_neg hboth, hf, hP, hv]

theorem setenv_writes_selected_file (c : Consts) (isDir : List Char → Bool) (api : EnvApi L)
    (files : Files) (store : Store L) (opts : List (Char × List Char)) (allocs : List Bool)
    (h : (argpParse (parseSetenvOpt c isDir) opts (Setenv.init allocs)).1 = .ret 0)
    (hup : (opts.any (·.1 == 'u') && opts.any (·.1 == 'p')) = false) {path : List Char}
    (hpath : selectedPath c isDir true none opts = some path) :
    ∃ (es : List Effect) (o : Outcome L),
      (opts.flatMap fun o => optionActions c o.1 o.2).map journalProcessAction = es.map some ∧
      bgSetenv c isDir api files store opts allocs = some o ∧
      o.record = if files.fopen_wb path then
        (if opts.any (·.1 == 'P') then getEnv L files path else some (BgEnvdata.zero L)).map
          fun d => freshCrc (es.foldl api.apply d)
        else none := by
  obtain ⟨ps, es, hq, hes⟩ := argpParse_setenv_journal h
  obtain ⟨o, ho, hrec⟩ := dumpenvToFile_record api files path (opts.any (·.1 == 'P')) hq hes
  exact ⟨es, { o with stderr := _ ++ o.stderr }, hes,
    by rw [bgSetenv_file_mode h hup hpath, ho]; rfl, hrec⟩

theorem setenv_writes_into_directory :
    (argpParse (parseSetenvOpt sampleConsts fun p => p == "boot".toList) [('f', "boot".toList)]
        (Setenv.init [])).1 = .ret 0 ∧
      ([('f', "boot".toList)].any (·.1 == 'u') && [('f', "boot".toList)].any (·.1 == 'p')) =
        false ∧
      selectedPath sampleConsts (fun p => p == "boot".toList) true none [('f', "boot".toList)] =
        some "boot/BGENV.DAT".toList ∧
      ∃ (es : List Effect) (o : Outcome sampleLayout),
        ([('f', "boot".toList)].flatMap fun o => optionActions sampleConsts o.1 o.2).map
          journalProcessAction = es.map some ∧
        bgSetenv sampleConsts (fun p => p == "boot".toList) (EnvApi.inert sampleLayout)
          ⟨fun _ => none, fun _ => true, true, true, 0⟩ ⟨false, none, none, fun _ => none, 0, 0, fun _ _ => false⟩
          [('f', "boot".toList)] [] = some o ∧
        o.record = if (⟨fun _ => none, fun _ => true, true, true, 0⟩ : Files).fopen_wb
            "boot/BGENV.DAT".toList then
          (if [('f', "boot".toList)].any (·.1 == 'P') then
            getEnv sampleLayout ⟨fun _ => none, fun _ => true, true, true, 0⟩ "boot/BGENV.DAT".toList
            else some (BgEnvdata.zero sampleLayout)).map
            fun d => freshCrc (es.foldl (EnvApi.inert sampleLayout).apply d)
          else none :=
  ⟨by decide, rfl, by decide, setenv_writes_selected_file sampleConsts _ _ _
    ⟨false, none, none, fun _ => none, 0, 0, fun _ _ => false⟩ [('f', "boot".toList)] [] (by decide) rfl
    (by decide)⟩

theorem setenv_version_writes_nothing (c : Consts) (isDir : List Char → Bool) (api : EnvApi L)
    (files : Files) (store : Store L) (pre post : List (Char × List Char)) (arg : List Char)
    (allocs : List Bool)
    (h : (argpParse (parseSetenvOpt c isDir) pre (Setenv.init allocs)).1 = .ret 0) :
    bgSetenv c isDir api files store (pre ++ ('V', arg) :: post) allocs =
      some ⟨0, none, (argpParse (parseSetenvOpt c isDir) pre (Setenv.init allocs)).2.stderr⟩ := by
  have hV : ∀ s : Setenv, parseSetenvOpt c isDir 'V' arg s = (.exit 0, s) := fun s => by
    simp [parseSetenvOpt, parseCommonOpt, Cli.withArguments]
  rw [bgSetenv, if_neg (by simp), argpParse_append _ h, argpParse, hV]

theorem setenv_version_after_state :
    (argpParse (parseSetenvOpt sampleConsts fun _ => false) [('s', "testing".toList)]
        (Setenv.init [])).1 = .ret 0 ∧
      bgSetenv sampleConsts (fun _ => false) (EnvApi.inert sampleLayout)
          ⟨fun _ => none, fun _ => true, true, true, 0⟩ ⟨true, none, none, fun _ => none, 0, 0, fun _ _ => true⟩
          ([('s', "testing".toList)] ++ ('V', []) :: [('s', "garbage".toList)]) [] =
        some ⟨0, none, (argpParse (parseSetenvOpt sampleConsts fun _ => false)
          [('s', "testing".toList)] (Setenv.init [])).2.stderr⟩ :=
  ⟨by decide, setenv_version_writes_nothing sampleConsts _ _ _
    ⟨true, none, none, fun _ => none, 0, 0, fun _ _ => true⟩ _ _ _ _ (by decide)⟩

theorem setenv_stops_at_rejected_option (c : Consts) (isDir : List Char → Bool) (api : EnvApi L)
    (files : Files) (store : Store L) (pre post : List (Char × List Char)) (key : Char)
    (arg : List Char) (allocs : List Bool) {e : Nat}
    (h : (argpParse (parseSetenvOpt c isDir) pre (Setenv.init allocs)).1 = .ret 0)
    (hr : (parseSetenvOpt c isDir key arg
      (argpParse (parseSetenvOpt c isDir) pre (Setenv.init allocs)).2).1 = .ret e) (he : e ≠ 0) :
    bgSetenv c isDir api files store (pre ++ (key, arg) :: post) allocs =
      some ⟨e, none, (parseSetenvOpt c isDir key arg
        (argpParse (parseSetenvOpt c isDir) pre (Setenv.init allocs)).2).2.stderr⟩ := by
  have hne : (parseSetenvOpt c isDir key arg
      (argpParse (parseSetenvOpt c isDir) pre (Setenv.init allocs)).2).1 ≠ .ret 0 := by
    rw [hr]; simpa using he
  rw [bgSetenv, if_neg (by simp), argpParse_append _ h, argpParse_cons_err _ hne]
  generalize parseSetenvOpt c isDir key arg _ = r at hr ⊢
  obtain ⟨r1, r2⟩ := r
  cases hr
  simp [he]

theorem setenv_stops_at_bad_state :
    (argpParse (parseSetenvOpt sampleConsts fun _ => false) [('s', "testing".toList)]
        (Setenv.init [])).1 = .ret 0 ∧
      (parseSetenvOpt sampleConsts (fun _ => false) 's' "garbage".toList
        (argpParse (parseSetenvOpt sampleConsts fun _ => false) [('s', "testing".toList)]
          (Setenv.init [])).2).1 = .ret 1 ∧
      (1 : Nat) ≠ 0 ∧
      bgSetenv sampleConsts (fun _ => false) (EnvApi.inert sampleLayout)
          ⟨fun _ => none, fun _ => true, true, true, 0⟩ ⟨true, none, none, fun _ => none, 0, 0, fun _ _ => true⟩
          ([('s', "testing".toList)] ++ ('s', "garbage".toList) :: [('f', "env".toList)]) [] =
        some ⟨1, none, (parseSetenvOpt sampleConsts (fun _ => false) 's' "garbage".toList
          (argpParse (parseSetenvOpt sampleConsts fun _ => false) [('s', "testing".toList)]
            (Setenv.init [])).2).2.stderr⟩ :=
  ⟨by decide, by decide, by decide, setenv_stops_at_rejected_option sampleConsts _ _ _
    ⟨true, none, none, fun _ => none, 0, 0, fun _ _ => true⟩ _ _ _ _ _ (by decide) (by decide) (by decide)⟩

section Written

variable {api : EnvApi L} {m : Mem} {env d : BgEnvdata L} {o : Outcome L}

theorem updateEnvironment_crcValid {r : Mem × BgEnvdata L}
    (h : updateEnvironment api m env = some r) : CrcValid r.2 := by
  obtain ⟨r', -, rfl⟩ := Option.map_eq_some'.1 h
  exact freshCrc_valid _

theorem dumpenvToFile_written {files : Files} {path : List Char} {preserve_env : Bool}
    (h : dumpenvToFile api files path preserve_env m = some o) (hd : o.record = some d) :
    files.fopen_wb path = true ∧ CrcValid d := by
  simp only [dumpenvToFile] at h
  generalize (if preserve_env then getEnv L files path else some (BgEnvdata.zero L)) = data at h
  cases data with
  | none => cases h; cases hd
  | some data =>
    obtain ⟨r, hr, rfl⟩ := Option.map_eq_some'.1 h
    rw [writeEnvFile_record] at hd
    split_ifs at hd with hopen
    cases hd
    exact ⟨hopen, updateEnvironment_crcValid hr⟩

end Written

theorem bgSetenv_record_source {c : Consts} {isDir : List Char → Bool} {api : EnvApi L}
    {files : Files} {store : Store L} {opts : List (Char × List Char)} {allocs : List Bool}
    {o : Outcome L} {d : BgEnvdata L}
    (h : bgSetenv c isDir api files store opts allocs = some o) (hd : o.record = some d) :
    ∃ s, opts ≠ [] ∧ argpParse (parseSetenvOpt c isDir) opts (Setenv.init allocs) = (.ret 0, s) ∧
      ¬(s.arguments.auto_update = true ∧ s.arguments.common.part_specified = true) ∧
      ((∃ path o', s.arguments.common.envfilepath = some path ∧
          dumpenvToFile api files path s.arguments.preserve_env s.mem = some o' ∧
          o'.record = some d) ∨
        (s.arguments.common.envfilepath = none ∧ store.bgenv_init = true ∧
          ∃ o', updateStore api store s.arguments s.mem = some o' ∧ o'.record = some d)) := by
  unfold bgSetenv at h
  by_cases hne : opts = []
  · rw [if_pos hne] at h; cases h; cases hd
  rw [if_neg hne] at h
  split at h
  next status s _ => cases h; cases hd
  next e s hr =>
    by_cases he : e ≠ 0
    · rw [if_pos he] at h; cases h; cases hd
    rw [if_neg he] at h
    obtain rfl : e = 0 := not_not.1 he
    by_cases hboth : s.arguments.auto_update = true ∧ s.arguments.common.part_specified = true
    · rw [if_pos hboth] at h; cases h; cases hd
    rw [if_neg hboth] at h
    refine ⟨s, hne, hr, hboth, ?_⟩
    split at h
    next path hpath =>
      obtain ⟨o', ho', rfl⟩ := Option.map_eq_some'.1 h
      exact .inl ⟨path, o', hpath, ho', hd⟩
    next hpath =>
      by_cases hinit : store.bgenv_init = true
      · rw [if_neg (by simp [hinit])] at h
        obtain ⟨o', ho', rfl⟩ := Option.map_eq_some'.1 h
        exact .inr ⟨hpath, hinit, o', ho', hd⟩
      · rw [if_pos (by simpa using hinit)] at h; cases h; cases hd

theorem bgSetenv_file_record {c : Consts} {isDir : List Char → Bool} {api : EnvApi L}
    {files : Files} {store : Store L} {opts : List (Char × List Char)} {allocs : List Bool}
    {o : Outcome L} {d : BgEnvdata L} {path : List Char}
    (h : bgSetenv c isDir api files store opts allocs = some o) (hd : o.record = some d)
    (hpath : selectedPath c isDir true none opts = some path) :
    files.fopen_wb path = true ∧ CrcValid d := by
  obtain ⟨s, -, hr, -, hsrc⟩ := bgSetenv_record_source h hd
  have hf := (argpParse_setenv_targets (congrArg Prod.fst hr)).2.2.2.2.1
  rw [hr] at hf
  simp only [Setenv.init, hpath] at hf
  rcases hsrc with ⟨path', o', hpath', ho', hd'⟩ | ⟨hnone, -⟩
  · obtain rfl : path' = path := Option.some.inj (hpath'.symm.trans hf)
    exact dumpenvToFile_written ho' hd'
  · simp [hf] at hnone

theorem dumpenvToFile_preserve (api : EnvApi L) (files : Files) (path : List Char) {m : Mem}
    {ps : List Nat} {xs : List EnvAction} (h : Queue m ps xs) (hwf : ∀ a ∈ xs, WellFormed a)
    {d : BgEnvdata L} (hd : getEnv L files path = some d) :
    ∃ (es : List Effect) (o : Outcome L), xs.map journalProcessAction = es.map some ∧
      dumpenvToFile api files path true m = some o ∧
      o.record = if files.fopen_wb path then some (freshCrc (es.foldl api.apply d)) else none := by
  obtain ⟨es, hes⟩ := exists_effects hwf
  obtain ⟨m', hupd, -, -⟩ := updateEnvironment_queue api h hes d
  refine ⟨es, _, hes, ?_, writeEnvFile_record files path _⟩
  simp [dumpenvToFile, hd, hupd]

theorem env_file_read_unchecked (files : Files) (path : List Char) :
    (∀ d, getEnv L files path = some d ↔
      ∃ bytes, files.contents path = some bytes ∧ L.size ≤ bytes.length ∧
        d.bytes = bytes.take L.size) ∧
    (printenvFromFile L files path).record = getEnv L files path ∧
    ∀ (api : EnvApi L) (m : Mem) (ps : List Nat) (xs : List EnvAction) (d : BgEnvdata L),
      Queue m ps xs → (∀ a ∈ xs, WellFormed a) → getEnv L files path = some d →
      ∃ (es : List Effect) (o : Outcome L), xs.map journalProcessAction = es.map some ∧
        dumpenvToFile api files path true m = some o ∧
        o.record = (if files.fopen_wb path then some (freshCrc (es.foldl api.apply d)) else none) ∧
        ∀ d' ∈ o.record, CrcValid d' := by
  refine ⟨fun d => getEnv_eq_some, printenvFromFile_record files path,
    fun api m ps xs d h hwf hd => ?_⟩
  obtain ⟨es, o, hes, ho, hrec⟩ := dumpenvToFile_preserve api files path h hwf hd
  refine ⟨es, o, hes, ho, hrec, fun d' hd' => ?_⟩
  rw [hrec] at hd'
  split_ifs at hd'
  · obtain rfl := Option.some.inj (Option.mem_def.mp hd')
    exact freshCrc_valid _
  · cases hd'

theorem dumpenv_without_preserve_starts_from_zero (api : EnvApi L) (files : Files)
    (path : List Char) {m : Mem} {ps : List Nat} {xs : List EnvAction} (h : Queue m ps xs)
    (hwf : ∀ a ∈ xs, WellFormed a) :
    ∃ (es : List Effect) (o : Outcome L), xs.map journalProcessAction = es.map some ∧
      dumpenvToFile api files path false m = some o ∧
      o.record =
        if files.fopen_wb path then some (freshCrc (es.foldl api.apply (BgEnvdata.zero L)))
        else none := by
  obtain ⟨es, hes⟩ := exists_effects hwf
  obtain ⟨m', hupd, -, -⟩ := updateEnvironment_queue api h hes (BgEnvdata.zero L)
  exact ⟨es, _, hes, by simp [dumpenvToFile, hupd], writeEnvFile_record files path _⟩

theorem dumpenv_without_preserve_replays_testing :
    Queue (journalAddAction .ENV_TASK_SET (some "ustate".toList) 0 (some "2\x00".toList) 2
        (Mem.init [])).2 [0] [newAction .ENV_TASK_SET (some "ustate".toList) 0 (some "2\x00".toList) 2] ∧
      (∀ a ∈ [newAction .ENV_TASK_SET (some "ustate".toList) 0 (some "2\x00".toList) 2], WellFormed a) ∧
      ∃ (es : List Effect) (o : Outcome sampleLayout),
        [newAction .ENV_TASK_SET (some "ustate".toList) 0 (some "2\x00".toList) 2].map
          journalProcessAction = es.map some ∧
        dumpenvToFile (EnvApi.inert sampleLayout)
            ⟨fun _ => some ((BgEnvdata.zero sampleLayout).setRevision 7).bytes, fun _ => true, true,
              true, 0⟩ "env".toList false
            (journalAddAction .ENV_TASK_SET (some "ustate".toList) 0 (some "2\x00".toList) 2
              (Mem.init [])).2 = some o ∧
        o.record =
          if (⟨fun _ => some ((BgEnvdata.zero sampleLayout).setRevision 7).bytes, fun _ => true, true,
              true, 0⟩ : Files).fopen_wb "env".toList then
            some (freshCrc (es.foldl (EnvApi.inert sampleLayout).apply (BgEnvdata.zero sampleLayout)))
          else none := by
  have hq := Queue.add_init [] .ENV_TASK_SET (some "ustate".toList) 0 (some "2\x00".toList) 2 rfl
  have hwf : ∀ a ∈ [newAction .ENV_TASK_SET (some "ustate".toList) 0 (some "2\x00".toList) 2],
      WellFormed a := optionActions_wellFormed sampleConsts 's' "testing".toList
  exact ⟨hq, hwf, dumpenv_without_preserve_starts_from_zero _ _ _ hq hwf⟩

theorem get_env_accepts_bad_crc :
    let bad := (BgEnvdata.zero sampleLayout).setCrc32
      (crc32 0 (crcBody (BgEnvdata.zero sampleLayout)) + 1)
    let files : Files := ⟨fun _ => some bad.bytes, fun _ => true, true, true, 0⟩
    getEnv sampleLayout files [] = some bad ∧ ¬ CrcValid bad ∧
      (printenvFromFile sampleLayout files []).record = some bad ∧
      ∃ o, dumpenvToFile (EnvApi.inert sampleLayout) files [] true (Mem.init []) = some o ∧
        o.record = some (freshCrc bad) ∧ CrcValid (freshCrc bad) := by
  intro bad files
  have hget : getEnv sampleLayout files [] = some bad :=
    getEnv_eq_some.2 ⟨bad.bytes, rfl, by rw [bad.length_eq], by rw [← bad.length_eq, List.take_length]⟩
  refine ⟨hget, fun hv => ?_, by rw [printenvFromFile_record, hget],
    writeEnvFile files [] (freshCrc bad), ?_, rfl, freshCrc_valid bad⟩
  · simp only [CrcValid, bad, BgEnvdata.crc32_setCrc32, crcBody_setCrc32] at hv
    exact u32_add_one_ne _ hv
  · simp [dumpenvToFile, hget, updateEnvironment_init, writeEnvFile]

end EfiBootGuard
