import EfiBootGuard.Queue
import EfiBootGuard.Envdata

/-!
`set_uservars` (bg_setenv.c, lines 242-260): the `-x KEY=VAL` option, split with `strtok`;
`uservarCalls` is the `journal_add_action` call it makes.
-/

namespace EfiBootGuard

def setUservars (c : Consts) (arg : List Char) (m : Mem) : Nat × Mem :=
  match strtok ['='] arg with
  | (none, _) => (0, m)
  | (some key, saved) =>
    match strtok ['='] saved with
    | (none, _) =>
      journalAddAction .ENV_TASK_DEL (some key) (c.USERVAR_TYPE_DEFAULT ||| c.USERVAR_TYPE_DELETED)
        none 0 m
    | (some value, _) =>
      journalAddAction .ENV_TASK_SET (some key)
        (c.USERVAR_TYPE_DEFAULT ||| c.USERVAR_TYPE_STRING_ASCII) (some (value ++ ['\x00']))
        (value.length + 1) m

def uservarCalls (c : Consts) (arg : List Char) : List AddCall :=
  match strtok ['='] arg with
  | (none, _) => []
  | (some key, saved) =>
    match strtok ['='] saved with
    | (none, _) =>
      [⟨.ENV_TASK_DEL, some key, c.USERVAR_TYPE_DEFAULT ||| c.USERVAR_TYPE_DELETED, none, 0⟩]
    | (some value, _) =>
      [⟨.ENV_TASK_SET, some key, c.USERVAR_TYPE_DEFAULT ||| c.USERVAR_TYPE_STRING_ASCII,
        some (value ++ ['\x00']), value.length + 1⟩]

def uservarActions (c : Consts) (arg : List Char) : List EnvAction :=
  (uservarCalls c arg).map AddCall.action

theorem setUservars_step {m : Mem} {ps : List Nat} {xs : List EnvAction} (h : Queue m ps xs)
    (c : Consts) (arg : List Char) :
    JournalStep ((setUservars c arg m).1 = 0) (setUservars c arg m).2 ps xs
      (uservarActions c arg) := by
  unfold setUservars uservarActions uservarCalls
  split
  · exact .nil h
  · split
    · exact journalAddAction_step h _ _ _ _ _
    · exact journalAddAction_step h _ _ _ _ _

theorem strtok_nil (delim : List Char) : strtok delim [] = (none, []) := rfl

theorem strtok_token {k r : List Char} (hk : k ≠ []) (hnk : '=' ∉ k) :
    strtok ['='] (k ++ r) = (some (k ++ r.takeWhile (! ['='].contains ·)),
      (r.dropWhile (! ['='].contains ·)).drop 1) := by
  obtain ⟨c, k, rfl⟩ := List.exists_cons_of_ne_nil hk
  have hall : ∀ x ∈ c :: k, (! ['='].contains x) = true := by
    intro x hx; simpa using fun (e : x = '=') => hnk (e ▸ hx)
  have hd : (c :: k ++ r).dropWhile ['='].contains = c :: k ++ r :=
    List.dropWhile_cons_of_neg (by simpa using hall c (List.mem_cons_self c k))
  unfold strtok
  rw [hd]
  dsimp only
  rw [if_neg (by simp), List.takeWhile_append_of_pos hall,
    List.dropWhile_append_of_pos hall]

theorem setUservars_splits_every_eq (c : Consts) (m : Mem) :
    setUservars c "k=a=b".toList m = journalAddAction .ENV_TASK_SET (some ['k'])
      (c.USERVAR_TYPE_DEFAULT ||| c.USERVAR_TYPE_STRING_ASCII) (some ['a', '\x00']) 2 m ∧
    setUservars c "=foo".toList m = journalAddAction .ENV_TASK_DEL (some "foo".toList)
      (c.USERVAR_TYPE_DEFAULT ||| c.USERVAR_TYPE_DELETED) none 0 m := ⟨rfl, rfl⟩

theorem setUservars_key_value (c : Consts) (k v : List Char) (hk : k ≠ []) (hnk : '=' ∉ k)
    (hnv : '=' ∉ v) (m : Mem) :
    setUservars c (k ++ '=' :: v) m =
        (if v = [] then
          journalAddAction .ENV_TASK_DEL (some k) (c.USERVAR_TYPE_DEFAULT ||| c.USERVAR_TYPE_DELETED)
            none 0 m
        else
          journalAddAction .ENV_TASK_SET (some k)
            (c.USERVAR_TYPE_DEFAULT ||| c.USERVAR_TYPE_STRING_ASCII) (some (v ++ ['\x00']))
            (v.length + 1) m) ∧
      setUservars c k m =
        journalAddAction .ENV_TASK_DEL (some k) (c.USERVAR_TYPE_DEFAULT ||| c.USERVAR_TYPE_DELETED)
          none 0 m := by
  have hkey : strtok ['='] (k ++ '=' :: v) = (some k, v) := by
    rw [strtok_token hk hnk]; simp
  have hbare : strtok ['='] k = (some k, []) := by
    simpa using strtok_token (r := []) hk hnk
  refine ⟨?_, by simp [setUservars, hbare, strtok_nil]⟩
  simp only [setUservars, hkey]
  by_cases hv : v = []
  · simp [hv, strtok_nil]
  · have hval : strtok ['='] v = (some v, []) := by simpa using strtok_token (r := []) hv hnv
    simp [hv, hval]

theorem setUservars_k_eq_v :
    (['k'] ≠ [] ∧ '=' ∉ ['k'] ∧ '=' ∉ ['v']) ∧
      setUservars sampleConsts ['k', '=', 'v'] (Mem.init []) =
        journalAddAction .ENV_TASK_SET (some ['k'])
          (sampleConsts.USERVAR_TYPE_DEFAULT ||| sampleConsts.USERVAR_TYPE_STRING_ASCII)
          (some ['v', '\x00']) 2 (Mem.init []) :=
  ⟨by decide, by simpa using (setUservars_key_value sampleConsts ['k'] ['v'] (by decide) (by decide)
    (by decide) (Mem.init [])).1⟩

end EfiBootGuard