import EfiBootGuard.Queue
import EfiBootGuard.Envdata

/-!
Replaying the journal: `journal_process_action` and `update_environment` (bg_setenv.c,
lines 173-215 and 643-660). `journalProcessAction` is `none` where the C code would dereference a
`NULL` key or data. Each round of the loop of `update_environment` frees a live cell, so it runs
at most as many rounds as there are cells, and `updateEnvironment` gives `drainJournal` that many.
-/

namespace EfiBootGuard

def cstr (buf : List Char) : List Char := buf.takeWhile (· ≠ '\x00')

def toULong (v : Int) : Nat := (v % 18446744073709551616).toNat

def journalProcessAction (action : EnvAction) : Option Effect :=
  match action.task, action.key, action.data with
  | .ENV_TASK_SET, some key, some data =>
    if key = "ustate".toList then
      let arg := cstr data
      let r := strtol arg
      let t := toULong r.val
      let errno := if r.erange then ERANGE else 0
      if (errno = ERANGE ∧ (t = toULong LONG_MAX ∨ t = toULong LONG_MIN)) ∨
          (errno ≠ 0 ∧ t = 0) ∨ r.endOff = 0 then some (.invalidUstate arg)
      else some (.setGlobalState (UInt16.ofNat t))
    else some (.bgenvSet key action.type data ((cstr data).length + 1))
  | .ENV_TASK_DEL, some key, _ => some (.bgenvSet key action.type ['\x00'] 1)
  | _, _, _ => none

/-- The `while (!STAILQ_EMPTY (&head))` loop of `update_environment`, for `fuel` rounds. -/
def drainJournal {L : Layout} (api : EnvApi L) : Nat → Mem → BgEnvdata L → Option (Mem × BgEnvdata L)
  | 0, m, env => if m.head.stqh_first = none then some (m, env) else none
  | fuel + 1, m, env =>
    match m.head.stqh_first with
    | none => some (m, env)
    | some p =>
      match m.read p with
      | some n =>
        (journalProcessAction n.action).bind fun e =>
          drainJournal api fuel (journalFreeAction (stailqRemoveHead m) (some p)) (api.apply env e)
      | none => none

def updateEnvironment {L : Layout} (api : EnvApi L) (m : Mem) (env : BgEnvdata L) :
    Option (Mem × BgEnvdata L) :=
  (drainJournal api m.cells.length m env).map fun r => (r.1, freshCrc r.2)

theorem stailqRemoveHead_cells (m : Mem) : (stailqRemoveHead m).cells = m.cells := by
  simp only [stailqRemoveHead]; split_ifs <;> rfl

theorem stailqRemoveHead_read (m : Mem) (p : Nat) : (stailqRemoveHead m).read p = m.read p := by
  simp [Mem.read, stailqRemoveHead_cells]

theorem drainJournal_queue {L : Layout} (api : EnvApi L) {m : Mem} {ps : List Nat} {xs : List EnvAction}
    {es : List Effect} (h : Queue m ps xs) (hes : xs.map journalProcessAction = es.map some)
    (fuel : Nat) (hfuel : ps.length ≤ fuel) (env : BgEnvdata L) :
    ∃ m', drainJournal api fuel m env = some (m', es.foldl api.apply env) ∧ Queue m' [] [] ∧
      m'.cells.length = m.cells.length ∧ ∀ q, m'.read q = if q ∈ ps then none else m.read q := by
  induction ps generalizing m xs es fuel env with
  | nil =>
    obtain ⟨hfirst, rfl⟩ := h.seg.nil_inv
    obtain rfl : es = [] := by simpa using hes.symm
    refine ⟨m, ?_, h, rfl, by simp⟩
    cases fuel <;> simp [drainJournal, hfirst]
  | cons p ps ih =>
    obtain ⟨-, n, xs', -, rfl, -⟩ := h.seg.cons_inv
    obtain ⟨e, es', rfl, hes'⟩ : ∃ e es', es = e :: es' ∧ xs'.map journalProcessAction = es'.map some ∧
        journalProcessAction n.action = some e := by
      cases es with
      | nil => simp at hes
      | cons e es' => simp only [List.map_cons, List.cons.injEq] at hes; exact ⟨e, es', rfl, hes.2, hes.1⟩
    obtain ⟨hfirst, ⟨n', hp, hn⟩, hq⟩ := h.removeHead
    obtain ⟨f, rfl⟩ : ∃ f, fuel = f + 1 := ⟨fuel - 1, by simp at hfuel; omega⟩
    obtain ⟨m', hrun, hq', hlen, hread⟩ := ih hq hes'.1 f (by simpa using hfuel) (api.apply env e)
    refine ⟨m', ?_, hq', ?_, fun q => ?_⟩
    · simp [drainJournal, hfirst, hp, hn, hes'.2, journalFreeAction, hrun]
    · simp [hlen, Mem.free, stailqRemoveHead_cells]
    · rw [hread, Mem.read_free, stailqRemoveHead_read]
      by_cases hqp : q = p
      · simp [hqp]
      · simp [hqp, Ne.symm hqp]

theorem updateEnvironment_queue {L : Layout} (api : EnvApi L) {m : Mem} {ps : List Nat}
    {xs : List EnvAction} {es : List Effect} (h : Queue m ps xs)
    (hes : xs.map journalProcessAction = es.map some) (env : BgEnvdata L) :
    ∃ m', updateEnvironment api m env = some (m', freshCrc (es.foldl api.apply env)) ∧
      Queue m' [] [] ∧ ∀ q, m'.read q = if q ∈ ps then none else m.read q := by
  obtain ⟨m', hrun, hq, -, hread⟩ := drainJournal_queue api h hes _ h.length_le env
  exact ⟨m', by simp [updateEnvironment, hrun], hq, hread⟩

end EfiBootGuard
