import EfiBootGuard.ParseInt
import EfiBootGuard.Ustate
import EfiBootGuard.Uservars

/-!
The option parser of bg_setenv: `parse_common_opt`, `parse_setenv_opt`, and `argp_parse`
handing it the options of the command line one after another (bg_setenv.c, lines 279-485).

While argp parses, a command holds its arguments, the memory of its journal and the lines it
wrote to stderr (`Cli`); a parser gives `argp_parse` an `error_t` or the status it exits with
(`Ret`). argp hands a parser only the keys of its option table and `ARGP_KEY_ARG` ('\x00'), and
answers any other option, and `-?`, itself: the command lines modelled are those `Declared` over
the table, and every command line a parser accepts is one. `optionCalls` lists the
`journal_add_action` calls an option makes once accepted, and `errorTexts` holds glibc's texts
for the `errno` values the journal and the file calls can leave.
-/

namespace EfiBootGuard

structure ArgumentsCommon where
  envfilepath : Option (List Char)
  verbosity : Bool
  which_part : Int
  part_specified : Bool
deriving DecidableEq, Repr

structure ArgumentsSetenv where
  common : ArgumentsCommon
  auto_update : Bool
  preserve_env : Bool
deriving DecidableEq, Repr

structure Cli (α : Type) where
  arguments : α
  mem : Mem
  stderr : List String
deriving DecidableEq, Repr

abbrev Setenv := Cli ArgumentsSetenv

inductive Ret
  | ret (e : Nat)
  | exit (status : Nat)
deriving DecidableEq, Repr

def ARGP_ERR_UNKNOWN : Nat := 7

def EX_USAGE : Nat := 64

def errorTexts : List (Nat × String) :=
  [(0, "Success"), (1, "Operation not permitted"), (2, "No such file or directory"),
    (4, "Interrupted system call"), (5, "Input/output error"), (6, "No such device or address"),
    (9, "Bad file descriptor"), (11, "Resource temporarily unavailable"),
    (12, "Cannot allocate memory"), (13, "Permission denied"), (14, "Bad address"),
    (16, "Device or resource busy"), (17, "File exists"), (19, "No such device"),
    (20, "Not a directory"), (21, "Is a directory"), (22, "Invalid argument"),
    (23, "Too many open files in system"), (24, "Too many open files"), (26, "Text file busy"),
    (27, "File too large"), (28, "No space left on device"), (29, "Illegal seek"),
    (30, "Read-only file system"), (32, "Broken pipe"), (36, "File name too long"),
    (40, "Too many levels of symbolic links"), (122, "Disk quota exceeded")]

def strerror (e : Nat) : String := (errorTexts.lookup e).getD ("Unknown error " ++ toString e)

namespace Cli

variable {α β : Type}

def err (s : Cli α) (msg : String) : Cli α := { s with stderr := s.stderr ++ [msg] }

def setMem (s : Cli α) (m : Mem) : Cli α := { s with mem := m }

def withArguments (s : Cli α) (a : β) : Cli β := ⟨a, s.mem, s.stderr⟩

@[simp] theorem err_mem (s : Cli α) (msg : String) : (s.err msg).mem = s.mem := rfl
@[simp] theorem err_arguments (s : Cli α) (msg : String) : (s.err msg).arguments = s.arguments := rfl
@[simp] theorem setMem_mem (s : Cli α) (m : Mem) : (s.setMem m).mem = m := rfl
@[simp] theorem setMem_arguments (s : Cli α) (m : Mem) : (s.setMem m).arguments = s.arguments :=
  rfl
@[simp] theorem withArguments_mem (s : Cli α) (a : β) : (s.withArguments a).mem = s.mem := rfl
@[simp] theorem withArguments_arguments (s : Cli α) (a : β) : (s.withArguments a).arguments = a :=
  rfl

end Cli

def Setenv.init (allocs : List Bool) : Setenv :=
  ⟨⟨⟨none, false, 0, false⟩, false, false⟩, Mem.init allocs, []⟩

def parseCommonOpt (c : Consts) (isDir : List Char → Bool) (key : Char) (arg : List Char)
    (compat_mode : Bool) (s : Cli ArgumentsCommon) : Ret × Cli ArgumentsCommon :=
  let common := s.arguments
  match key with
  | 'f' =>
    let common := { common with envfilepath := none }
    if compat_mode ∧ isDir arg then
      let s := s.err "WARNING: Using -f to specify only the ouptut directory is deprecated.\n"
      let (ok, m) := s.mem.malloc
      if ok then (.ret 0, (s.setMem m).withArguments
        { common with envfilepath := some (arg ++ '/' :: c.FAT_ENV_FILENAME) })
      else (.ret ENOMEM, (s.setMem m).withArguments common)
    else
      let (ok, m) := s.mem.malloc
      if ok then (.ret 0, (s.setMem m).withArguments { common with envfilepath := some arg })
      else (.ret ENOMEM, (s.setMem m).withArguments common)
  | 'p' =>
    let (i, errno) := parseInt arg
    if errno ≠ 0 then (.ret 1, s.err "Invalid number specified for -p.\n")
    else if 0 ≤ i ∧ i < c.ENV_NUM_CONFIG_PARTS then
      (.ret 0, s.withArguments { common with which_part := i, part_specified := true })
    else (.ret 1, s.err ("Selected partition out of range. Valid range: 0.." ++
      toString ((c.ENV_NUM_CONFIG_PARTS : Int) - 1) ++ ".\n"))
  | 'v' => (.ret 0, s.withArguments { common with verbosity := true })
  | 'V' => (.exit 0, s)
  | _ => (.ret ARGP_ERR_UNKNOWN, s)

def journalResult (r : Nat × Mem) (s : Setenv) : Ret × Setenv :=
  let s := s.setMem r.2
  if r.1 ≠ 0 then (.ret r.1, s.err ("Error creating journal: " ++ strerror r.1 ++ "\n"))
  else (.ret 0, s)

def setAction (key data : List Char) (datalen : Nat) (s : Setenv) : Ret × Setenv :=
  journalResult (journalAddAction .ENV_TASK_SET (some key) 0 (some data) datalen s.mem) s

def setFormatted (key : List Char) (i : Int) (s : Setenv) : Ret × Setenv :=
  let (ok, m) := s.mem.malloc
  if ok then
    let tmp := fmtUnsigned i
    setAction key (tmp ++ ['\x00']) (tmp.length + 1) (s.setMem m)
  else (.ret ENOMEM, s.setMem m)

def setString (c : Consts) (key : List Char) (what : String) (arg : List Char) (s : Setenv) :
    Ret × Setenv :=
  if arg.length > c.ENV_STRING_LENGTH then
    (.ret 1, s.err ("Error, " ++ what ++ " is too long. Maximum of " ++
      toString c.ENV_STRING_LENGTH ++ " characters permitted.\n"))
  else setAction key (arg ++ ['\x00']) (arg.length + 1) s

def parseSetenvOpt (c : Consts) (isDir : List Char → Bool) (key : Char) (arg : List Char)
    (s : Setenv) : Ret × Setenv :=
  match key with
  | 'k' => setString c "kernelfile".toList "kernel filename" arg s
  | 'a' => setString c "kernelparams".toList "kernel arguments string" arg s
  | 's' =>
    let (i, errno) := parseInt arg
    let i : Int := if errno ≠ 0 then str2ustate arg else i
    if errno ≠ 0 ∧ i = USTATE_UNKNOWN then (.ret 1, s.err "Invalid state specified.\n")
    else if i < 0 ∨ i > 3 then
      (.ret 1, s.err "Invalid ustate value specified. Possible values: 0 (OK), 1 (INSTALLED), 2 (TESTING), 3 (FAILED)\n")
    else setFormatted "ustate".toList i s
  | 'i' =>
    let (i, errno) := parseInt arg
    if errno ≠ 0 then (.ret 1, s.err "Invalid value specified.\n")
    else if i < 0 ∨ i > 1 then
      (.ret 1, s.err "Invalid value specified. Possible values: 0 (no), 1 (yes)\n")
    else setFormatted "in_progress".toList i s
  | 'r' =>
    if (parseInt arg).2 ≠ 0 then (.ret 1, s.err "Invalid revision specified.\n")
    else setAction "revision".toList (arg ++ ['\x00']) (arg.length + 1) s
  | 'w' =>
    let (i, errno) := parseInt arg
    if errno ≠ 0 ∨ i < 0 then (.ret 1, s.err "Invalid watchdog timeout specified.\n")
    else setAction "watchdog_timeout_sec".toList (arg ++ ['\x00']) (arg.length + 1) s
  | 'c' => setAction "ustate".toList ['0', '\x00'] 2 s
  | 'u' => (.ret 0, { s with arguments := { s.arguments with auto_update := true } })
  | 'x' => journalResult (setUservars c arg s.mem) s
  | 'P' => (.ret 0, { s with arguments := { s.arguments with preserve_env := true } })
  | '\x00' => (.exit EX_USAGE, s)
  | _ =>
    let r := parseCommonOpt c isDir key arg true (s.withArguments s.arguments.common)
    (r.1, r.2.withArguments { s.arguments with common := r.2.arguments })

/-- `argp_parse`: each option to the parser in turn, until one fails or exits. -/
def argpParse {α : Type} (parser : Char → List Char → Cli α → Ret × Cli α) :
    List (Char × List Char) → Cli α → Ret × Cli α
  | [], s => (.ret 0, s)
  | (key, arg) :: opts, s =>
    match parser key arg s with
    | (.ret 0, s) => argpParse parser opts s
    | r => r

section Argp

variable {α : Type} {parser : Char → List Char → Cli α → Ret × Cli α} {key : Char}
  {arg : List Char} {s : Cli α}

theorem argpParse_cons_ok (opts : List (Char × List Char)) (h : (parser key arg s).1 = .ret 0) :
    argpParse parser ((key, arg) :: opts) s = argpParse parser opts (parser key arg s).2 := by
  rw [argpParse]
  rcases hr : parser key arg s with ⟨r1, r2⟩
  rw [hr] at h
  subst h
  rfl

theorem argpParse_cons_err (opts : List (Char × List Char)) (h : (parser key arg s).1 ≠ .ret 0) :
    argpParse parser ((key, arg) :: opts) s = parser key arg s := by
  rw [argpParse]
  rcases hr : parser key arg s with ⟨r1, r2⟩
  rw [hr] at h
  rcases r1 with ⟨_ | e⟩ | st
  · exact absurd rfl h
  · rfl
  · rfl

theorem argpParse_cons_accepted (opts : List (Char × List Char))
    (h : (argpParse parser ((key, arg) :: opts) s).1 = .ret 0) :
    (parser key arg s).1 = .ret 0 ∧
      argpParse parser ((key, arg) :: opts) s = argpParse parser opts (parser key arg s).2 := by
  by_cases h0 : (parser key arg s).1 = .ret 0
  · exact ⟨h0, argpParse_cons_ok opts h0⟩
  · rw [argpParse_cons_err opts h0] at h
    exact absurd h h0

theorem argpParse_accepted {opts : List (Char × List Char)}
    (h : (argpParse parser opts s).1 = .ret 0) :
    ∀ o ∈ opts, ∃ s', (parser o.1 o.2 s').1 = .ret 0 := by
  induction opts generalizing s with
  | nil => simp
  | cons o opts ih =>
    obtain ⟨key, arg⟩ := o
    obtain ⟨h0, heq⟩ := argpParse_cons_accepted opts h
    rw [heq] at h
    exact List.forall_mem_cons.mpr ⟨⟨s, h0⟩, ih h⟩

theorem argpParse_append {pre : List (Char × List Char)} (rest : List (Char × List Char))
    (h : (argpParse parser pre s).1 = .ret 0) :
    argpParse parser (pre ++ rest) s = argpParse parser rest (argpParse parser pre s).2 := by
  induction pre generalizing s with
  | nil => rfl
  | cons o pre ih =>
    obtain ⟨key, arg⟩ := o
    obtain ⟨h0, heq⟩ := argpParse_cons_accepted pre h
    rw [heq] at h ⊢
    rw [List.cons_append, argpParse_cons_ok _ h0, ih h]

def Declared (keys : List Char) (opts : List (Char × List Char)) : Prop := ∀ o ∈ opts, o.1 ∈ keys

instance (keys : List Char) (opts : List (Char × List Char)) : Decidable (Declared keys opts) :=
  inferInstanceAs (Decidable (∀ _ ∈ _, _))

theorem argpParse_declared {keys : List Char} {opts : List (Char × List Char)}
    (hkey : ∀ key arg s, (parser key arg s).1 = .ret 0 → key ∈ keys)
    (h : (argpParse parser opts s).1 = .ret 0) : Declared keys opts := fun o ho => by
  obtain ⟨s', hs'⟩ := argpParse_accepted h o ho
  exact hkey _ _ _ hs'

end Argp

def setenvKeys : List Char :=
  ['f', 'p', 'v', 'V', 'P', 'k', 'a', 'r', 's', 'w', 'c', 'u', 'x', 'i', '\x00']

def optionCalls (c : Consts) (key : Char) (arg : List Char) : List AddCall :=
  let set (k data : List Char) (datalen : Nat) : List AddCall :=
    [⟨.ENV_TASK_SET, some k, 0, some data, datalen⟩]
  match key with
  | 'k' => set "kernelfile".toList (arg ++ ['\x00']) (arg.length + 1)
  | 'a' => set "kernelparams".toList (arg ++ ['\x00']) (arg.length + 1)
  | 's' =>
    let i : Int := if (parseInt arg).2 ≠ 0 then str2ustate arg else (parseInt arg).1
    set "ustate".toList (fmtUnsigned i ++ ['\x00']) ((fmtUnsigned i).length + 1)
  | 'i' =>
    set "in_progress".toList (fmtUnsigned (parseInt arg).1 ++ ['\x00'])
      ((fmtUnsigned (parseInt arg).1).length + 1)
  | 'r' => set "revision".toList (arg ++ ['\x00']) (arg.length + 1)
  | 'w' => set "watchdog_timeout_sec".toList (arg ++ ['\x00']) (arg.length + 1)
  | 'c' => set "ustate".toList ['0', '\x00'] 2
  | 'x' => uservarCalls c arg
  | _ => []

def optionActions (c : Consts) (key : Char) (arg : List Char) : List EnvAction :=
  (optionCalls c key arg).map AddCall.action

theorem journalResult_ret (r : Nat × Mem) (s : Setenv) :
    (journalResult r s).1 = .ret 0 ↔ r.1 = 0 := by
  by_cases h : r.1 = 0 <;> simp [journalResult, h]

@[simp] theorem journalResult_mem (r : Nat × Mem) (s : Setenv) : (journalResult r s).2.mem = r.2 := by
  unfold journalResult; split_ifs <;> rfl

section Steps

variable {c : Consts} {s : Setenv} {ps : List Nat} {xs : List EnvAction}

theorem journalResult_step {r : Nat × Mem} {as : List EnvAction}
    (h : JournalStep (r.1 = 0) r.2 ps xs as) :
    JournalStep ((journalResult r s).1 = .ret 0) (journalResult r s).2.mem ps xs as := by
  rw [journalResult_mem, journalResult_ret]; exact h

theorem setAction_step (h : Queue s.mem ps xs) (key data : List Char) (datalen : Nat) :
    JournalStep ((setAction key data datalen s).1 = .ret 0) (setAction key data datalen s).2.mem
      ps xs [newAction .ENV_TASK_SET (some key) 0 (some data) datalen] :=
  journalResult_step (journalAddAction_step h _ _ _ _ _)

theorem setFormatted_step (h : Queue s.mem ps xs) (key : List Char) (i : Int) :
    JournalStep ((setFormatted key i s).1 = .ret 0) (setFormatted key i s).2.mem ps xs
      [newAction .ENV_TASK_SET (some key) 0 (some (fmtUnsigned i ++ ['\x00']))
        ((fmtUnsigned i).length + 1)] := by
  unfold setFormatted
  split
  next ok m hm =>
    have hq : Queue m ps xs := by simpa [hm] using h.malloc
    split
    · exact setAction_step hq _ _ _
    · exact ⟨fun h => by simp [ENOMEM] at h, fun _ => hq⟩

theorem reject_step (h : Queue s.mem ps xs) {p : Prop} [Decidable p] {msg : String}
    {r : Ret × Setenv} {as : List EnvAction} (hr : JournalStep (r.1 = .ret 0) r.2.mem ps xs as) :
    JournalStep ((if p then (.ret 1, s.err msg) else r).1 = .ret 0)
      (if p then (.ret 1, s.err msg) else r).2.mem ps xs as := by
  split_ifs
  · exact ⟨fun h => by simp at h, fun _ => h⟩
  · exact hr

theorem setFormatted_ok_iff (key : List Char) (i : Int) :
    (setFormatted key i s).1 = .ret 0 ↔ s.mem.AllocOk 4 := by
  rw [show 4 = 1 + 3 from rfl, Mem.allocOk_add]
  unfold setFormatted
  rw [Mem.malloc_eq]
  by_cases h1 : s.mem.AllocOk 1
  · simp only [h1, decide_True, if_true, true_and, setAction, journalResult_ret,
      journalAddAction_ok_iff, Cli.setMem_mem]
    simp [addAllocs]
  · simp [h1, ENOMEM]

theorem reject_ok {p : Prop} [Decidable p] {msg : String} {r : Ret × Setenv}
    (h : (if p then (.ret 1, s.err msg) else r).1 = .ret 0) : ¬ p ∧ r.1 = .ret 0 := by
  split_ifs at h with hp
  · simp at h
  · exact ⟨hp, h⟩

theorem setString_step (h : Queue s.mem ps xs) (key : List Char) (what : String) (arg : List Char) :
    JournalStep ((setString c key what arg s).1 = .ret 0) (setString c key what arg s).2.mem ps xs
      [newAction .ENV_TASK_SET (some key) 0 (some (arg ++ ['\x00'])) (arg.length + 1)] :=
  reject_step h (setAction_step h _ _ _)

theorem parseCommonOpt_mem (isDir : List Char → Bool) (key : Char) (arg : List Char)
    (compat_mode : Bool) (s : Cli ArgumentsCommon) :
    (parseCommonOpt c isDir key arg compat_mode s).2.mem = s.mem ∨
      (parseCommonOpt c isDir key arg compat_mode s).2.mem = s.mem.malloc.2 := by
  unfold parseCommonOpt
  split <;> simp only <;> (try split_ifs) <;> simp

def envFilePath (c : Consts) (isDir : List Char → Bool) (compat_mode : Bool) (arg : List Char) :
    List Char :=
  if compat_mode ∧ isDir arg then arg ++ '/' :: c.FAT_ENV_FILENAME else arg

theorem parseCommonOpt_targets (isDir : List Char → Bool) (key : Char) (arg : List Char)
    (compat_mode : Bool) (s : Cli ArgumentsCommon)
    (h : (parseCommonOpt c isDir key arg compat_mode s).1 = .ret 0) :
    (parseCommonOpt c isDir key arg compat_mode s).2.arguments.envfilepath.isSome =
        (s.arguments.envfilepath.isSome || key == 'f') ∧
      (parseCommonOpt c isDir key arg compat_mode s).2.arguments.part_specified =
        (s.arguments.part_specified || key == 'p') ∧
      (parseCommonOpt c isDir key arg compat_mode s).2.arguments.which_part =
        (if key = 'p' then (parseInt arg).1 else s.arguments.which_part) ∧
      (parseCommonOpt c isDir key arg compat_mode s).2.arguments.envfilepath =
        (if key = 'f' then some (envFilePath c isDir compat_mode arg)
        else s.arguments.envfilepath) ∧
      (parseCommonOpt c isDir key arg compat_mode s).2.arguments.verbosity =
        (s.arguments.verbosity || key == 'v') := by
  revert h
  unfold parseCommonOpt
  split <;> simp only [Char.reduceEq, ↓reduceIte] <;> (try split_ifs) <;>
    simp [ENOMEM, ARGP_ERR_UNKNOWN, envFilePath] <;> cases compat_mode <;> simp_all

theorem parseSetenvOpt_step (h : Queue s.mem ps xs) (isDir : List Char → Bool) (key : Char)
    (arg : List Char) :
    JournalStep ((parseSetenvOpt c isDir key arg s).1 = .ret 0)
      (parseSetenvOpt c isDir key arg s).2.mem ps xs (optionActions c key arg) := by
  unfold parseSetenvOpt
  split
  · exact setString_step h _ _ _
  · exact setString_step h _ _ _
  · exact reject_step h (reject_step h (setFormatted_step h _ _))
  · exact reject_step h (reject_step h (setFormatted_step h _ _))
  · exact reject_step h (setAction_step h _ _ _)
  · exact reject_step h (setAction_step h _ _ _)
  · exact setAction_step h _ _ _
  · exact .nil h
  · exact journalResult_step (setUservars_step h c arg)
  · exact .nil h
  · exact .nil h
  · have hnil : optionActions c key arg = [] := by
      unfold optionActions optionCalls; split <;> first | rfl | contradiction
    rw [hnil]
    simp only [Cli.withArguments_mem]
    rcases parseCommonOpt_mem (c := c) isDir key arg true (s.withArguments s.arguments.common)
      with hm | hm <;> rw [hm]
    · exact .nil h
    · exact .nil h.malloc

theorem argpParse_journal (h : Queue s.mem ps xs) (isDir : List Char → Bool)
    (opts : List (Char × List Char)) :
    ∃ k ps', Queue (argpParse (parseSetenvOpt c isDir) opts s).2.mem ps'
        (xs ++ (opts.take k).flatMap fun o => optionActions c o.1 o.2) ∧
      ((argpParse (parseSetenvOpt c isDir) opts s).1 = .ret 0 → k = opts.length) := by
  induction opts generalizing s ps xs with
  | nil => exact ⟨0, ps, by simpa [argpParse] using h, fun _ => rfl⟩
  | cons o opts ih =>
    obtain ⟨key, arg⟩ := o
    have hstep := parseSetenvOpt_step (c := c) h isDir key arg
    by_cases h0 : (parseSetenvOpt c isDir key arg s).1 = .ret 0
    · obtain ⟨ps1, hq1⟩ := hstep.1 h0
      obtain ⟨k, ps', hq, hk⟩ := ih hq1
      refine ⟨k + 1, ps', ?_, fun hr => ?_⟩
      · simpa [argpParse_cons_ok opts h0] using hq
      · simp [hk (by rwa [argpParse_cons_ok opts h0] at hr)]
    · refine ⟨0, ps, ?_, fun hr => ?_⟩
      · simpa [argpParse_cons_err opts h0] using hstep.2 h0
      · exact absurd (by rwa [argpParse_cons_err opts h0] at hr) h0

end Steps

section Targets

variable {c : Consts} {isDir : List Char → Bool}

@[simp] theorem journalResult_arguments (r : Nat × Mem) (s : Setenv) :
    (journalResult r s).2.arguments = s.arguments := by
  unfold journalResult; split_ifs <;> rfl

@[simp] theorem setAction_arguments (key data : List Char) (datalen : Nat) (s : Setenv) :
    (setAction key data datalen s).2.arguments = s.arguments :=
  journalResult_arguments _ _

@[simp] theorem setFormatted_arguments (key : List Char) (i : Int) (s : Setenv) :
    (setFormatted key i s).2.arguments = s.arguments := by
  unfold setFormatted; split; split <;> simp

@[simp] theorem setString_arguments (key : List Char) (what : String) (arg : List Char)
    (s : Setenv) : (setString c key what arg s).2.arguments = s.arguments := by
  unfold setString; split_ifs <;> simp

theorem parseSetenvOpt_targets {key : Char} {arg : List Char} {s : Setenv}
    (h : (parseSetenvOpt c isDir key arg s).1 = .ret 0) :
    (parseSetenvOpt c isDir key arg s).2.arguments.auto_update =
        (s.arguments.auto_update || key == 'u') ∧
      (parseSetenvOpt c isDir key arg s).2.arguments.common.envfilepath.isSome =
        (s.arguments.common.envfilepath.isSome || key == 'f') ∧
      (parseSetenvOpt c isDir key arg s).2.arguments.common.part_specified =
        (s.arguments.common.part_specified || key == 'p') ∧
      (parseSetenvOpt c isDir key arg s).2.arguments.common.which_part =
        (if key = 'p' then (parseInt arg).1 else s.arguments.common.which_part) ∧
      (parseSetenvOpt c isDir key arg s).2.arguments.common.envfilepath =
        (if key = 'f' then some (envFilePath c isDir true arg)
        else s.arguments.common.envfilepath) ∧
      (parseSetenvOpt c isDir key arg s).2.arguments.preserve_env =
        (s.arguments.preserve_env || key == 'P') ∧
      (parseSetenvOpt c isDir key arg s).2.arguments.common.verbosity =
        (s.arguments.common.verbosity || key == 'v') := by
  unfold parseSetenvOpt at h ⊢
  revert h
  split
  case h_12 =>
    intro h
    obtain ⟨hf, hp, hw, hpath, hv⟩ := parseCommonOpt_targets _ key arg true _ h
    simp_all
  all_goals
    intro _
    try simp only [Char.reduceEq, ↓reduceIte]
    (try split_ifs) <;> simp

def selectedPart (init : Int) (opts : List (Char × List Char)) : Int :=
  opts.foldl (fun w o => if o.1 = 'p' then (parseInt o.2).1 else w) init

def selectedPath (c : Consts) (isDir : List Char → Bool) (compat_mode : Bool)
    (init : Option (List Char)) (opts : List (Char × List Char)) : Option (List Char) :=
  opts.foldl (fun p o => if o.1 = 'f' then some (envFilePath c isDir compat_mode o.2) else p) init

theorem selectedPath_compat (c : Consts) (isDir : List Char → Bool) (init : Option (List Char))
    (opts : List (Char × List Char)) :
    selectedPath c isDir true (init.map (envFilePath c isDir true)) opts =
      (selectedPath c (fun _ => false) false init opts).map (envFilePath c isDir true) := by
  induction opts generalizing init with
  | nil => rfl
  | cons o opts ih =>
    by_cases hf : o.1 = 'f'
    · simpa [selectedPath, hf, envFilePath] using ih (some o.2)
    · simpa [selectedPath, hf] using ih init

theorem argpParse_setenv_targets {opts : List (Char × List Char)} {s : Setenv}
    (h : (argpParse (parseSetenvOpt c isDir) opts s).1 = .ret 0) :
    (argpParse (parseSetenvOpt c isDir) opts s).2.arguments.auto_update =
        (s.arguments.auto_update || opts.any (·.1 == 'u')) ∧
      (argpParse (parseSetenvOpt c isDir) opts s).2.arguments.common.envfilepath.isSome =
        (s.arguments.common.envfilepath.isSome || opts.any (·.1 == 'f')) ∧
      (argpParse (parseSetenvOpt c isDir) opts s).2.arguments.common.part_specified =
        (s.arguments.common.part_specified || opts.any (·.1 == 'p')) ∧
      (argpParse (parseSetenvOpt c isDir) opts s).2.arguments.common.which_part =
        selectedPart s.arguments.common.which_part opts ∧
      (argpParse (parseSetenvOpt c isDir) opts s).2.arguments.common.envfilepath =
        selectedPath c isDir true s.arguments.common.envfilepath opts ∧
      (argpParse (parseSetenvOpt c isDir) opts s).2.arguments.preserve_env =
        (s.arguments.preserve_env || opts.any (·.1 == 'P')) ∧
      (argpParse (parseSetenvOpt c isDir) opts s).2.arguments.common.verbosity =
        (s.arguments.common.verbosity || opts.any (·.1 == 'v')) := by
  induction opts generalizing s with
  | nil => simp [argpParse, selectedPart, selectedPath]
  | cons o opts ih =>
    obtain ⟨key, arg⟩ := o
    obtain ⟨h0, heq⟩ := argpParse_cons_accepted opts h
    rw [heq] at h ⊢
    obtain ⟨hu, hf, hp, hw, hpath, hP, hv⟩ := parseSetenvOpt_targets h0
    obtain ⟨ih1, ih2, ih3, ih4, ih5, ih6, ih7⟩ := ih h
    refine ⟨?_, ?_, ?_, ?_, ?_, ?_, ?_⟩
    · rw [ih1, hu, List.any_cons, Bool.or_assoc]
    · rw [ih2, hf, List.any_cons, Bool.or_assoc]
    · rw [ih3, hp, List.any_cons, Bool.or_assoc]
    · rw [ih4, hw]; rfl
    · rw [ih5, hpath]; rfl
    · rw [ih6, hP, List.any_cons, Bool.or_assoc]
    · rw [ih7, hv, List.any_cons, Bool.or_assoc]

theorem parseCommonOpt_declared {key : Char} {arg : List Char} {compat_mode : Bool}
    {s : Cli ArgumentsCommon} (h : (parseCommonOpt c isDir key arg compat_mode s).1 = .ret 0) :
    key = 'f' ∨ key = 'p' ∨ key = 'v' := by
  unfold parseCommonOpt at h
  split at h <;> first | decide | simp [ARGP_ERR_UNKNOWN] at h

theorem parseSetenvOpt_declared {key : Char} {arg : List Char} {s : Setenv}
    (h : (parseSetenvOpt c isDir key arg s).1 = .ret 0) : key ∈ setenvKeys := by
  unfold parseSetenvOpt at h
  split at h
  case h_12 => rcases parseCommonOpt_declared h with rfl | rfl | rfl <;> decide
  all_goals decide

theorem argpParse_setenv_declared {opts : List (Char × List Char)} {s : Setenv}
    (h : (argpParse (parseSetenvOpt c isDir) opts s).1 = .ret 0) : Declared setenvKeys opts :=
  argpParse_declared (fun _ _ _ => parseSetenvOpt_declared) h

end Targets

theorem kernel_option_accepts_full_length (c : Consts) (isDir : List Char → Bool) :
    (parseSetenvOpt c isDir 'k' (List.replicate c.ENV_STRING_LENGTH 'a') (Setenv.init [])).1 =
        .ret 0 ∧
      ∃ ps, Queue (parseSetenvOpt c isDir 'k' (List.replicate c.ENV_STRING_LENGTH 'a')
          (Setenv.init [])).2.mem ps
        [newAction .ENV_TASK_SET (some "kernelfile".toList) 0
          (some (List.replicate c.ENV_STRING_LENGTH 'a' ++ ['\x00'])) (c.ENV_STRING_LENGTH + 1)] := by
  have hok : (setString c "kernelfile".toList "kernel filename"
      (List.replicate c.ENV_STRING_LENGTH 'a') (Setenv.init [])).1 = .ret 0 := by
    simp only [setString, List.length_replicate, gt_iff_lt, Nat.lt_irrefl, if_false, setAction,
      journalResult_ret, journalAddAction_ok_iff]
    simp [Setenv.init, Mem.init, Mem.AllocOk]
  obtain ⟨ps, hq⟩ := (setString_step (c := c) (Queue.init []) _ _ _).1 hok
  exact ⟨hok, ps, by simpa only [List.length_replicate, List.nil_append] using hq⟩

end EfiBootGuard
