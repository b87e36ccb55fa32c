import EfiBootGuard.Options
import EfiBootGuard.Process

/-!
The journal over a whole run of bg_setenv: what the options put in it and what
`update_environment` does with it. `Field.Valid` is what the option for a built-in field checks,
read on the data of an action that sets the field, and `UstateArg arg v` says that `-s` takes
`arg` as state `v`: a numeral of `v` in 0..3, or, for a non-numeral, the name of state `v` at its
start, in any case.
-/

namespace EfiBootGuard

structure WellFormed (a : EnvAction) : Prop where
  key_isSome : a.key.isSome
  set_data : a.task = .ENV_TASK_SET → ∃ d, a.data = some (d ++ ['\x00'])

structure AddCall.WellFormed (a : AddCall) : Prop where
  key_isSome : a.key.isSome
  set_data : a.task = .ENV_TASK_SET → ∃ d, a.data = some (d ++ ['\x00']) ∧ a.datalen = d.length + 1

theorem AddCall.WellFormed.action {a : AddCall} (h : a.WellFormed) :
    EfiBootGuard.WellFormed a.action where
  key_isSome := h.key_isSome
  set_data hset := by
    obtain ⟨d, hd, hlen⟩ := h.set_data hset
    exact ⟨d, by simp [AddCall.action, newAction, hd, hlen]⟩

theorem AddCall.WellFormed.buffer {a : AddCall} (h : a.WellFormed)
    (hset : a.action.task = .ENV_TASK_SET) :
    ∃ buf, a.action.data = some buf ∧ buf.length = a.datalen ∧ buf.getLast? = some '\x00' := by
  obtain ⟨d, hd, hlen⟩ := h.set_data hset
  exact ⟨d ++ ['\x00'], by simp [AddCall.action, newAction, hd, hlen], by simp [hlen], by simp⟩

theorem uservarCalls_wellFormed (c : Consts) (arg : List Char) :
    ∀ a ∈ uservarCalls c arg, a.WellFormed := by
  unfold uservarCalls
  split
  · simp
  · split <;> simp only [List.mem_singleton, forall_eq]
    · exact ⟨rfl, fun h => nomatch h⟩
    · exact ⟨rfl, fun _ => ⟨_, rfl, rfl⟩⟩

theorem optionCalls_wellFormed (c : Consts) (key : Char) (arg : List Char) :
    ∀ a ∈ optionCalls c key arg, a.WellFormed := by
  unfold optionCalls
  split <;> simp only [List.mem_singleton, forall_eq, List.not_mem_nil, false_imp_iff,
    implies_true]
  all_goals first
    | exact ⟨rfl, fun _ => ⟨_, rfl, rfl⟩⟩
    | exact ⟨rfl, fun _ => ⟨['0'], rfl, rfl⟩⟩
    | exact uservarCalls_wellFormed c arg

theorem optionActions_wellFormed (c : Consts) (key : Char) (arg : List Char) :
    ∀ a ∈ optionActions c key arg, WellFormed a := by
  simp only [optionActions, List.mem_map]
  rintro _ ⟨a, ha, rfl⟩
  exact (optionCalls_wellFormed c key arg a ha).action

theorem journalProcessAction_isSome {a : EnvAction} (h : WellFormed a) :
    ∃ e, journalProcessAction a = some e := by
  obtain ⟨key, type, data, task⟩ := a
  obtain ⟨k, rfl⟩ := Option.isSome_iff_exists.mp h.key_isSome
  cases task with
  | ENV_TASK_SET =>
    obtain ⟨d, rfl⟩ := h.set_data rfl
    unfold journalProcessAction
    dsimp only
    split_ifs <;> exact ⟨_, rfl⟩
  | ENV_TASK_DEL => exact ⟨_, rfl⟩

theorem exists_effects {xs : List EnvAction} (h : ∀ a ∈ xs, WellFormed a) :
    ∃ es : List Effect, xs.map journalProcessAction = es.map some := by
  induction xs with
  | nil => exact ⟨[], rfl⟩
  | cons a xs ih =>
    obtain ⟨e, he⟩ := journalProcessAction_isSome (h a (List.mem_cons_self a xs))
    obtain ⟨es, hes⟩ := ih fun b hb => h b (List.mem_cons_of_mem a hb)
    exact ⟨e :: es, by simp [he, hes]⟩

theorem argpParse_journal_take (c : Consts) (isDir : List Char → Bool)
    (opts : List (Char × List Char)) (allocs : List Bool) {n : Nat} (hn : n ≤ opts.length) :
    ∃ k ≤ n, ∃ ps,
      Queue (argpParse (parseSetenvOpt c isDir) (opts.take n) (Setenv.init allocs)).2.mem ps
        (((opts.take k).flatMap fun o => optionCalls c o.1 o.2).map AddCall.action) ∧
      ((argpParse (parseSetenvOpt c isDir) (opts.take n) (Setenv.init allocs)).1 = .ret 0 →
        k = n) := by
  obtain ⟨k, ps, hq, hk⟩ :=
    argpParse_journal (c := c) (s := Setenv.init allocs) (Queue.init allocs) isDir (opts.take n)
  rw [List.nil_append, List.take_take] at hq
  refine ⟨min k n, Nat.min_le_right k n, ps, by simpa [List.map_flatMap] using hq, fun h => ?_⟩
  rw [hk h, List.length_take_of_le hn, Nat.min_self]

theorem journal_lifecycle (c : Consts) (isDir : List Char → Bool)
    (opts : List (Char × List Char)) (allocs : List Bool) {L : Layout} (api : EnvApi L)
    (env : BgEnvdata L) :
    (∀ (m : Mem) task key type data datalen,
        (journalAddAction task key type data datalen m).1 ≠ 0 →
        (journalAddAction task key type data datalen m).2.head = m.head ∧
        ∀ p < m.cells.length, (journalAddAction task key type data datalen m).2.read p = m.read p) ∧
    (∀ (m : Mem) ps xs task key type data datalen, Queue m ps xs →
        JournalStep ((journalAddAction task key type data datalen m).1 = 0)
          (journalAddAction task key type data datalen m).2 ps xs
          [newAction task key type data datalen]) ∧
    (∀ (m : Mem) p ps a xs, Queue m (p :: ps) (a :: xs) →
        Queue (journalFreeAction (stailqRemoveHead m) (some p)) ps xs) ∧
    (∀ a ∈ opts.flatMap (fun o => optionCalls c o.1 o.2), a.action.key.isSome ∧
        (a.action.task = .ENV_TASK_SET →
          ∃ buf, a.action.data = some buf ∧ buf.length = a.datalen ∧ buf.getLast? = some '\x00')) ∧
    ∀ n ≤ opts.length, ∃ k ≤ n, ∃ ps,
      Queue (argpParse (parseSetenvOpt c isDir) (opts.take n) (Setenv.init allocs)).2.mem ps
        (((opts.take k).flatMap fun o => optionCalls c o.1 o.2).map AddCall.action) ∧
      ((argpParse (parseSetenvOpt c isDir) (opts.take n) (Setenv.init allocs)).1 = .ret 0 →
        k = n) ∧
      ∃ (es : List Effect) (m' : Mem),
        (((opts.take k).flatMap fun o => optionCalls c o.1 o.2).map AddCall.action).map
          journalProcessAction = es.map some ∧
        updateEnvironment api
            (argpParse (parseSetenvOpt c isDir) (opts.take n) (Setenv.init allocs)).2.mem env =
          some (m', freshCrc (es.foldl api.apply env)) ∧
        Queue m' [] [] := by
  have hwf : ∀ l : List (Char × List Char), ∀ a ∈ l.flatMap (fun o => optionCalls c o.1 o.2),
      a.WellFormed := fun l a ha => by
    obtain ⟨o, -, ha⟩ := List.mem_flatMap.1 ha
    exact optionCalls_wellFormed c o.1 o.2 a ha
  refine ⟨fun m task key type data datalen hne => ?_,
    fun m ps xs task key type data datalen h => journalAddAction_step h _ _ _ _ _,
    fun m p ps a xs h => h.removeHead.2.2,
    fun a ha => ⟨(hwf opts a ha).action.key_isSome, (hwf opts a ha).buffer⟩, fun n hn => ?_⟩
  · rcases journalAddAction_spec task key type data datalen m with ⟨-, he⟩ | ⟨-, -, hh, hr⟩
    · exact absurd (by rw [he]) hne
    · exact ⟨hh, hr⟩
  obtain ⟨k, hk, ps, hq, hacc⟩ := argpParse_journal_take c isDir opts allocs hn
  have hwfa : ∀ a ∈ ((opts.take k).flatMap fun o => optionCalls c o.1 o.2).map AddCall.action,
      WellFormed a := by
    simp only [List.mem_map]
    rintro _ ⟨a, ha, rfl⟩
    exact (hwf _ a ha).action
  obtain ⟨es, hes⟩ := exists_effects hwfa
  obtain ⟨m', hupd, hq', -⟩ := updateEnvironment_queue api hq hes env
  exact ⟨k, hk, ps, hq, hacc, es, m', hes, hupd, hq'⟩

end EfiBootGuard

namespace EfiBootGuard

inductive Field
  | kernelfile
  | kernelparams
  | ustate
  | in_progress
  | watchdog_timeout_sec
  | revision
deriving DecidableEq, Repr

def builtinField (key : List Char) : Option Field :=
  if key = "kernelfile".toList then some .kernelfile
  else if key = "kernelparams".toList then some .kernelparams
  else if key = "ustate".toList then some .ustate
  else if key = "in_progress".toList then some .in_progress
  else if key = "watchdog_timeout_sec".toList then some .watchdog_timeout_sec
  else if key = "revision".toList then some .revision
  else none

def Field.Valid (c : Consts) : Field → List Char → Prop
  | .kernelfile, d | .kernelparams, d => ∃ s, d = s ++ ['\x00'] ∧ s.length ≤ c.ENV_STRING_LENGTH
  | .ustate, d => ∃ v < 4, d = Nat.toDigits 10 v ++ ['\x00']
  | .in_progress, d => ∃ v < 2, d = Nat.toDigits 10 v ++ ['\x00']
  | .watchdog_timeout_sec, d => ∃ s n, d = s ++ ['\x00'] ∧ IsNumeral s n ∧ 0 ≤ n ∧ n ≤ INT_MAX
  | .revision, d => ∃ s n, d = s ++ ['\x00'] ∧ IsNumeral s n ∧ INT_MIN ≤ n ∧ n ≤ INT_MAX

def Validated (c : Consts) (a : EnvAction) : Prop :=
  ∀ f, a.key.bind builtinField = some f → a.task = .ENV_TASK_SET ∧ ∃ d, a.data = some d ∧ f.Valid c d

theorem validated_set {c : Consts} {k d : List Char} {f : Field} (hf : builtinField k = some f)
    (hv : f.Valid c d) (hd : d ≠ []) {datalen : Nat} (hlen : datalen = d.length) :
    Validated c (newAction .ENV_TASK_SET (some k) 0 (some d) datalen) := by
  intro f' hf'
  simp only [newAction, Option.some_bind, hf, Option.some.injEq] at hf'
  subst hf' hlen
  exact ⟨rfl, d, by simp [newAction, hd], hv⟩

theorem optionActions_validated {c : Consts} {isDir : List Char → Bool} {key : Char}
    {arg : List Char} {s : Setenv} (h : (parseSetenvOpt c isDir key arg s).1 = .ret 0)
    (hx : key ≠ 'x') : ∀ a ∈ optionActions c key arg, Validated c a := by
  unfold parseSetenvOpt at h
  split at h <;> (try simp only at h) <;>
    (try simp only [optionActions, optionCalls.eq_1, optionCalls.eq_2, optionCalls.eq_3,
      optionCalls.eq_4, optionCalls.eq_5, optionCalls.eq_6, optionCalls.eq_7, optionCalls.eq_8,
      optionCalls.eq_9, List.map_cons, List.map_nil, AddCall.action, Char.reduceEq,
      List.mem_singleton, forall_eq])
  · have hlen := (reject_ok h).1
    exact validated_set (f := .kernelfile) (by decide) ⟨arg, rfl, by omega⟩ (by simp) (by simp)
  · have hlen := (reject_ok h).1
    exact validated_set (f := .kernelparams) (by decide) ⟨arg, rfl, by omega⟩ (by simp) (by simp)
  · have hi := (reject_ok (reject_ok h).2).1
    generalize (if (parseInt arg).2 ≠ 0 then ((str2ustate arg : Nat) : Int) else (parseInt arg).1) = i at hi ⊢
    exact validated_set (f := .ustate) (by decide)
      ⟨i.toNat, by omega, by rw [fmtUnsigned_of_nonneg (by omega) (by omega)]⟩ (by simp) (by simp)
  · have hi := (reject_ok (reject_ok h).2).1
    exact validated_set (f := .in_progress) (by decide)
      ⟨(parseInt arg).1.toNat, by omega, by rw [fmtUnsigned_of_nonneg (by omega) (by omega)]⟩
      (by simp) (by simp)
  · obtain ⟨hn, hr, hr'⟩ := parseInt_ok (not_not.mp (reject_ok h).1)
    exact validated_set (f := .revision) (by decide) ⟨arg, _, rfl, hn, hr, hr'⟩ (by simp) (by simp)
  · have hw := (reject_ok h).1
    obtain ⟨hn, -, hr'⟩ := parseInt_ok (s := arg) (by omega)
    exact validated_set (f := .watchdog_timeout_sec) (by decide) ⟨arg, _, rfl, hn, by omega, hr'⟩
      (by simp) (by simp)
  · exact validated_set (f := .ustate) (by decide) ⟨0, by decide, rfl⟩ (by simp) rfl
  · exact fun _ ha => nomatch ha
  · exact absurd rfl hx
  · exact fun _ ha => nomatch ha
  · exact fun _ ha => nomatch ha
  · simp

end EfiBootGuard

namespace EfiBootGuard

def UstateArg (arg : List Char) (v : Nat) : Prop :=
  ((parseInt arg).2 = 0 ∧ (parseInt arg).1 = v ∧ v ≤ 3) ∨
    ((parseInt arg).2 ≠ 0 ∧ v < 4 ∧ HasPrefixCI arg (ustatemap.getD v []))

theorem ustateArg_iff (arg : List Char) (v : Nat) :
    UstateArg arg v ↔
      (if (parseInt arg).2 ≠ 0 then ((str2ustate arg : Nat) : Int) else (parseInt arg).1) = v ∧
        v ≤ 3 := by
  have hle := str2ustate_le arg
  have hiff := str2ustate_eq_iff arg v
  simp only [USTATE_MAX, USTATE_UNKNOWN] at hle hiff
  by_cases herr : (parseInt arg).2 = 0
  · simp [UstateArg, herr]
  · simp only [UstateArg, herr, false_and, ne_eq, not_false_eq_true, true_and, false_or,
      if_true, Int.ofNat_inj]
    constructor
    · rintro ⟨hv, hp⟩; exact ⟨(hiff hv).2 hp, by omega⟩
    · rintro ⟨rfl, hv⟩; exact ⟨by omega, (hiff (by omega)).1 rfl⟩

theorem journalProcessAction_ustate {v : Nat} (hv : v < 4) :
    journalProcessAction (newAction .ENV_TASK_SET (some "ustate".toList) 0
      (some (Nat.toDigits 10 v ++ ['\x00'])) ((Nat.toDigits 10 v).length + 1)) =
      some (.setGlobalState (UInt16.ofNat v)) := by
  rcases v with _ | _ | _ | _ | v
  all_goals first | decide | omega

theorem ustate_option_sets_state (c : Consts) (isDir : List Char → Bool) (arg : List Char)
    (s : Setenv) {ps : List Nat} {xs : List EnvAction} (h : Queue s.mem ps xs) :
    ((parseSetenvOpt c isDir 's' arg s).1 = .ret 0 ↔ (∃ v, UstateArg arg v) ∧ s.mem.AllocOk 4) ∧
    ∀ v, UstateArg arg v → (parseSetenvOpt c isDir 's' arg s).1 = .ret 0 →
      ∃ ps' a, Queue (parseSetenvOpt c isDir 's' arg s).2.mem ps' (xs ++ [a]) ∧
        a.task = .ENV_TASK_SET ∧ a.key = some "ustate".toList ∧
        journalProcessAction a = some (.setGlobalState (UInt16.ofNat v)) := by
  have hstep := parseSetenvOpt_step (c := c) h isDir 's' arg
  simp only [ustateArg_iff]
  simp only [parseSetenvOpt, optionActions, optionCalls, List.map_cons, List.map_nil,
    AddCall.action] at hstep ⊢
  have hle := str2ustate_le arg
  generalize (if (parseInt arg).2 ≠ 0 then ((str2ustate arg : Nat) : Int) else (parseInt arg).1) = i
    at hstep ⊢
  simp only [USTATE_UNKNOWN] at hstep ⊢
  split_ifs at hstep ⊢ with h4 hrange
  · exact ⟨⟨fun h => by simp at h, fun ⟨⟨v, hv, hv3⟩, _⟩ => by omega⟩, fun v _ h => by simp at h⟩
  · exact ⟨⟨fun h => by simp at h, fun ⟨⟨v, hv, hv3⟩, _⟩ => by omega⟩, fun v _ h => by simp at h⟩
  refine ⟨?_, ?_⟩
  · rw [setFormatted_ok_iff]
    exact ⟨fun hok => ⟨⟨i.toNat, by omega, by omega⟩, hok⟩, fun h => h.2⟩
  · rintro v ⟨rfl, hv3⟩ hok
    obtain ⟨ps', hq⟩ := hstep.1 hok
    refine ⟨ps', _, hq, rfl, rfl, ?_⟩
    rw [fmtUnsigned_of_nonneg (by omega) (by omega), Int.toNat_ofNat]
    exact journalProcessAction_ustate (by omega)

theorem ustate_option_on_testing :
    Queue (Setenv.init []).mem [] [] ∧
      ((parseSetenvOpt sampleConsts (fun _ => false) 's' "testing".toList (Setenv.init [])).1 =
          .ret 0 ↔ (∃ v, UstateArg "testing".toList v) ∧ (Setenv.init []).mem.AllocOk 4) :=
  ⟨Queue.init [], (ustate_option_sets_state sampleConsts (fun _ => false) _ _ (Queue.init [])).1⟩

theorem accepted_options_validate (c : Consts) (isDir : List Char → Bool)
    (opts : List (Char × List Char)) (allocs : List Bool)
    (h : (argpParse (parseSetenvOpt c isDir) opts (Setenv.init allocs)).1 = .ret 0) :
    ∃ ps, Queue (argpParse (parseSetenvOpt c isDir) opts (Setenv.init allocs)).2.mem ps
        (opts.flatMap fun o => optionActions c o.1 o.2) ∧
      ∀ o ∈ opts, o.1 ≠ 'x' → ∀ a ∈ optionActions c o.1 o.2, Validated c a := by
  obtain ⟨k, ps, hq, hk⟩ :=
    argpParse_journal (c := c) (s := Setenv.init allocs) (Queue.init allocs) isDir opts
  rw [hk h, List.take_length, List.nil_append] at hq
  refine ⟨ps, hq, fun o ho hx => ?_⟩
  obtain ⟨s', hs'⟩ := argpParse_accepted h o ho
  exact optionActions_validated hs' hx

theorem accepted_options_validate_on_testing :
    (argpParse (parseSetenvOpt sampleConsts fun _ => false) [('s', "testing".toList)]
        (Setenv.init [])).1 = .ret 0 ∧
      ∃ ps, Queue (argpParse (parseSetenvOpt sampleConsts fun _ => false)
          [('s', "testing".toList)] (Setenv.init [])).2.mem ps
        ([('s', "testing".toList)].flatMap fun o => optionActions sampleConsts o.1 o.2) ∧
      ∀ o ∈ [('s', "testing".toList)], o.1 ≠ 'x' →
        ∀ a ∈ optionActions sampleConsts o.1 o.2, Validated sampleConsts a :=
  ⟨by decide, accepted_options_validate _ _ _ _ (by decide)⟩

theorem uservar_option_skips_validation :
    ¬ ∀ (c : Consts) (isDir : List Char → Bool) (opts : List (Char × List Char))
        (allocs : List Bool),
        (argpParse (parseSetenvOpt c isDir) opts (Setenv.init allocs)).1 = .ret 0 →
        ∀ ps xs,
          Queue (argpParse (parseSetenvOpt c isDir) opts (Setenv.init allocs)).2.mem ps xs →
          ∀ a ∈ xs, Validated c a := by
  intro hall
  obtain ⟨k, ps, hq, hk⟩ := argpParse_journal (c := sampleConsts)
    (s := Setenv.init []) (Queue.init []) (fun _ => false) [('x', "ustate=99".toList)]
  have hacc : (argpParse (parseSetenvOpt sampleConsts fun _ => false) [('x', "ustate=99".toList)]
      (Setenv.init [])).1 = .ret 0 := by decide
  rw [hk hacc] at hq
  have hmem : newAction .ENV_TASK_SET (some "ustate".toList) 0 (some "99\x00".toList) 3 ∈
      [] ++ (List.take 1 [('x', "ustate=99".toList)]).flatMap
        (fun o => optionActions sampleConsts o.1 o.2) := by decide
  obtain ⟨-, d, hd, hv⟩ := hall _ _ _ _ hacc _ _ hq _ hmem .ustate (by decide)
  obtain rfl : d = "99\x00".toList := by simpa [newAction] using hd.symm
  revert hv
  simp only [Field.Valid]
  decide

theorem ustate_replay_accepts_garbage (c : Consts) :
    (uservarActions c "ustate=2abc".toList).map journalProcessAction = [some (.setGlobalState 2)] ∧
      (uservarActions c "ustate=65536".toList).map journalProcessAction =
        [some (.setGlobalState 0)] := by
  have h65536 : (uservarActions c "ustate=65536".toList).map journalProcessAction =
      [some (.setGlobalState (UInt16.ofNat 65536))] := rfl
  exact ⟨rfl, h65536⟩

section Revision

variable {L : Layout} (api : EnvApi L)

theorem journalProcessAction_cases {a : EnvAction} {e : Effect}
    (he : journalProcessAction a = some e) :
    (∃ data, e = .invalidUstate data) ∨ (∃ ustate, e = .setGlobalState ustate) ∨
      ∃ key type data datalen, e = .bgenvSet key type data datalen ∧ a.key = some key := by
  unfold journalProcessAction at he
  split at he
  · simp only at he
    split_ifs at he <;> obtain rfl := (Option.some.inj he).symm <;>
      first
      | exact .inl ⟨_, rfl⟩
      | exact .inr (.inl ⟨_, rfl⟩)
      | exact .inr (.inr ⟨_, _, _, _, rfl, by assumption⟩)
  · obtain rfl := (Option.some.inj he).symm
    exact .inr (.inr ⟨_, _, _, _, rfl, by assumption⟩)
  · cases he

theorem apply_revision {a : EnvAction} {e : Effect} (he : journalProcessAction a = some e)
    (hk : a.key ≠ some "revision".toList) (d : BgEnvdata L) :
    (api.apply d e).revision = d.revision := by
  rcases journalProcessAction_cases he with ⟨x, rfl⟩ | ⟨u, rfl⟩ | ⟨k, t, data, n, rfl, hka⟩
  · rfl
  · exact api.setglobalstate_revision d u
  · exact api.bgenv_set_revision d k t data n fun h => hk (by rw [hka, h])

theorem foldl_apply_revision {xs : List EnvAction} {es : List Effect}
    (hes : xs.map journalProcessAction = es.map some) (hk : ∀ a ∈ xs, a.key ≠ some "revision".toList)
    (d : BgEnvdata L) : (es.foldl api.apply d).revision = d.revision := by
  induction xs generalizing es d with
  | nil => obtain rfl : es = [] := by simpa using hes.symm
           rfl
  | cons a xs ih =>
    obtain ⟨e, es, rfl⟩ : ∃ e es', es = e :: es' := by
      cases es with
      | nil => simp at hes
      | cons e es' => exact ⟨e, es', rfl⟩
    simp only [List.map_cons, List.cons.injEq, Option.some.injEq] at hes
    rw [List.foldl_cons, ih hes.2 (fun b hb => hk b (List.mem_cons_of_mem a hb)),
      apply_revision api hes.1 (hk a (List.mem_cons_self a xs))]

end Revision

end EfiBootGuard
