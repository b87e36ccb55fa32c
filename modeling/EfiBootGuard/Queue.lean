import EfiBootGuard.Journal

/-!
The representation invariant of the journal's STAILQ, and the queue operations that keep it.
`Seg` follows `stqe_next` through live cells; `Queue` asks that `head` run from `stqh_first`
through distinct cells to `NULL`, with `stqh_last` designating the `stqe_next` field of the last
cell, or `stqh_first` when the queue is empty. `JournalStep` is what a call that may add to the
journal leaves: its actions appended when it succeeds, the queue exactly as it was when it fails.
-/

namespace EfiBootGuard

inductive Seg (m : Mem) : Option Nat → Option Nat → List Nat → List EnvAction → Prop
  | nil (x : Option Nat) : Seg m x x [] []
  | cons {p : Nat} {n : Node} {y : Option Nat} {ps : List Nat} {xs : List EnvAction} :
      m.read p = some n → Seg m n.stqe_next y ps xs → Seg m (some p) y (p :: ps) (n.action :: xs)

def lastLink (ps : List Nat) : Link :=
  match ps.getLast? with
  | none => .stqh_first
  | some p => .stqe_next p

structure Queue (m : Mem) (ps : List Nat) (xs : List EnvAction) : Prop where
  seg : Seg m m.head.stqh_first none ps xs
  nodup : ps.Nodup
  last : m.head.stqh_last = lastLink ps

@[simp] theorem lastLink_nil : lastLink [] = .stqh_first := rfl

@[simp] theorem lastLink_concat (ps : List Nat) (p : Nat) : lastLink (ps ++ [p]) = .stqe_next p := by
  simp [lastLink]

theorem lastLink_cons_cons (p q : Nat) (ps : List Nat) :
    lastLink (p :: q :: ps) = lastLink (q :: ps) := by
  simp [lastLink, List.getLast?_cons_cons]

namespace Seg

variable {m w : Mem} {x y : Option Nat} {ps : List Nat} {xs : List EnvAction}

theorem nil_inv (h : Seg m x y [] xs) : x = y ∧ xs = [] := by
  cases h; exact ⟨rfl, rfl⟩

theorem cons_inv {p : Nat} (h : Seg m x y (p :: ps) xs) :
    x = some p ∧ ∃ n xs', m.read p = some n ∧ xs = n.action :: xs' ∧ Seg m n.stqe_next y ps xs' := by
  cases h with
  | cons hp hrest => exact ⟨rfl, _, _, hp, rfl, hrest⟩

theorem frame (h : Seg m x y ps xs) (hf : ∀ p ∈ ps, w.read p = m.read p) : Seg w x y ps xs := by
  induction h with
  | nil x => exact .nil x
  | cons hp _ ih =>
    exact .cons ((hf _ (List.mem_cons_self _ _)).trans hp)
      (ih fun q hq => hf q (List.mem_cons_of_mem _ hq))

theorem lt_length (h : Seg m x y ps xs) : ∀ p ∈ ps, p < m.cells.length := by
  induction h with
  | nil => simp
  | cons hp _ ih =>
    intro q hq
    rcases List.mem_cons.mp hq with rfl | hq
    · exact Mem.lt_of_read hp
    · exact ih q hq

theorem snoc {p : Nat} {n : Node} (h : Seg m x (some p) ps xs) (hp : m.read p = some n) :
    Seg m x n.stqe_next (ps ++ [p]) (xs ++ [n.action]) := by
  generalize hy : some p = y at h
  induction h with
  | nil => subst hy; exact .cons hp (.nil _)
  | cons hq _ ih => exact .cons hq (ih hy)

theorem unsnoc {p : Nat} (h : Seg m x y (ps ++ [p]) xs) :
    ∃ n xs', m.read p = some n ∧ n.stqe_next = y ∧ xs = xs' ++ [n.action] ∧
      Seg m x (some p) ps xs' := by
  induction ps generalizing x xs with
  | nil =>
    obtain ⟨rfl, n, xs', hp, rfl, hrest⟩ := h.cons_inv
    obtain ⟨hy, rfl⟩ := hrest.nil_inv
    exact ⟨n, [], hp, hy, rfl, .nil _⟩
  | cons q ps ih =>
    obtain ⟨rfl, nq, xs', hq, rfl, hrest⟩ := h.cons_inv
    obtain ⟨n, xs'', hp, hy, rfl, hseg⟩ := ih hrest
    exact ⟨n, _ :: xs'', hp, hy, rfl, .cons hq hseg⟩

end Seg

namespace Queue

variable {m w : Mem} {ps : List Nat} {xs : List EnvAction}

theorem init (allocs : List Bool) : Queue (Mem.init allocs) [] [] :=
  ⟨.nil none, List.nodup_nil, rfl⟩

theorem length_le (h : Queue m ps xs) : ps.length ≤ m.cells.length := by
  have hsub : ps ⊆ List.range m.cells.length :=
    fun p hp => List.mem_range.mpr (h.seg.lt_length p hp)
  simpa using (List.subperm_of_subset h.nodup hsub).length_le

theorem frame (h : Queue m ps xs) (hh : w.head = m.head)
    (hr : ∀ p < m.cells.length, w.read p = m.read p) : Queue w ps xs where
  seg := by rw [hh]; exact h.seg.frame fun p hp => hr p (h.seg.lt_length p hp)
  nodup := h.nodup
  last := by rw [hh]; exact h.last

theorem insertTail {p : Nat} {a : EnvAction} (h : Queue m ps xs) (hp : m.read p = some ⟨a, none⟩)
    (hfresh : p ∉ ps) : Queue (stailqInsertTail m p) (ps ++ [p]) (xs ++ [a]) := by
  have hself : m.store (.stqe_next p) none = m.write p ⟨a, none⟩ := Mem.store_stqe_next hp none
  have hread : ∀ q, (m.write p ⟨a, none⟩).read q = m.read q := by
    intro q; rw [Mem.read_write]; split_ifs with hq
    · rw [← hq.1, hp]
    · rfl
  rcases ps.eq_nil_or_concat with rfl | ⟨ps, l, rfl⟩
  · obtain ⟨hfirst, rfl⟩ := h.seg.nil_inv
    simp only [stailqInsertTail, hself, Mem.write_head, h.last, lastLink_nil,
      Mem.store_stqh_first, Mem.setHead_head, List.nil_append]
    refine ⟨.cons (n := ⟨a, none⟩) (by simp [hread, hp]) (.nil none), List.nodup_singleton p,
      by simp [lastLink]⟩
  · rw [List.concat_eq_append] at h hfresh ⊢
    obtain ⟨nl, xs', hl, hnext, rfl, hseg⟩ := h.seg.unsnoc
    have hlp : l ≠ p := fun e => hfresh (by simp [e])
    have hl' : l ∉ ps := fun hl => (List.nodup_append.mp h.nodup).2.2 hl (List.mem_singleton_self l)
    have hstore := Mem.store_stqe_next ((hread l).trans hl) (some p)
    simp only [stailqInsertTail, hself, Mem.write_head, h.last, lastLink_concat, hstore]
    have hreadl : ∀ q, ((m.write p ⟨a, none⟩).write l { nl with stqe_next := some p }).read q =
        if l = q then some { nl with stqe_next := some p } else m.read q := by
      intro q; rw [Mem.read_write, hread]; simp [Mem.lt_of_read hl]
    refine ⟨?_, ?_, by rw [Mem.setHead_head, lastLink_concat]⟩
    · simp only [Mem.setHead_head, Mem.write_head, List.append_assoc, List.singleton_append]
      have h1 := (hseg.frame (w := (m.write p ⟨a, none⟩).write l { nl with stqe_next := some p })
        fun q hq => by rw [hreadl, if_neg (fun (e : l = q) => hl' (e ▸ hq))]).snoc
        (n := { nl with stqe_next := some p }) (by simp [hreadl])
      have h2 := h1.snoc (p := p) (n := ⟨a, none⟩) (by rw [hreadl, if_neg hlp, hp])
      simpa using h2.frame (w := ((m.write p ⟨a, none⟩).write l
        { nl with stqe_next := some p }).setHead ⟨m.head.stqh_first, .stqe_next p⟩) fun q _ => rfl
    · exact (List.nodup_append.mpr ⟨h.nodup, List.nodup_singleton p,
        fun q hq hq' => hfresh (by rw [List.mem_singleton.mp hq'] at hq; exact hq)⟩)

theorem removeHead {p : Nat} {a : EnvAction} (h : Queue m (p :: ps) (a :: xs)) :
    m.head.stqh_first = some p ∧ (∃ n, m.read p = some n ∧ n.action = a) ∧
      Queue ((stailqRemoveHead m).free p) ps xs := by
  obtain ⟨hfirst, n, xs', hp, hax, hrest⟩ := h.seg.cons_inv
  obtain ⟨rfl, rfl⟩ := List.cons.inj hax
  refine ⟨hfirst, ⟨n, hp, rfl⟩, ?_⟩
  have hpn : p ∉ ps := (List.nodup_cons.mp h.nodup).1
  have hread : ∀ q ∈ ps, ((stailqRemoveHead m).free p).read q = m.read q := by
    intro q hq
    rw [Mem.read_free, if_neg (fun (e : p = q) => hpn (e ▸ hq))]
    simp only [stailqRemoveHead]; split_ifs <;> rfl
  cases ps with
  | nil =>
    obtain ⟨hnext, rfl⟩ := hrest.nil_inv
    simp only [stailqRemoveHead, hfirst, Option.some_bind, hp, hnext, if_true]
    exact ⟨.nil none, List.nodup_nil, rfl⟩
  | cons q ps =>
    obtain ⟨hnext, -⟩ := hrest.cons_inv
    simp only [stailqRemoveHead, hfirst, Option.some_bind, hp, hnext, reduceCtorEq, if_false]
      at hread ⊢
    refine ⟨?_, (List.nodup_cons.mp h.nodup).2, ?_⟩
    · simpa [hnext] using hrest.frame hread
    · simpa [h.last] using lastLink_cons_cons p q ps

theorem journalAddAction (h : Queue m ps xs) (task : BgenvTask) (key : Option (List Char))
    (type : UInt64) (data : Option (List Char)) (datalen : Nat) :
    ((EfiBootGuard.journalAddAction task key type data datalen m).1 = 0 ∧
      Queue (EfiBootGuard.journalAddAction task key type data datalen m).2
        (ps ++ [m.cells.length]) (xs ++ [newAction task key type data datalen])) ∨
    ((EfiBootGuard.journalAddAction task key type data datalen m).1 = ENOMEM ∧
      (EfiBootGuard.journalAddAction task key type data datalen m).2.head = m.head ∧
      (∀ p < m.cells.length,
        (EfiBootGuard.journalAddAction task key type data datalen m).2.read p = m.read p) ∧
      Queue (EfiBootGuard.journalAddAction task key type data datalen m).2 ps xs) := by
  rcases journalAddAction_spec task key type data datalen m with ⟨-, he⟩ | ⟨-, he, hh, hr⟩
  · rw [he]
    refine .inl ⟨rfl, insertTail (h.frame (w := Mem.alloc _ _) rfl fun p hp => ?_) ?_ ?_⟩
    · exact Mem.read_alloc_of_lt (m.dropAllocs _) _ hp
    · exact Mem.read_alloc_self (m.dropAllocs _) _
    · exact fun hp => Nat.lt_irrefl _ (h.seg.lt_length _ hp)
  · exact .inr ⟨he, hh, hr, h.frame hh hr⟩

theorem malloc (h : Queue m ps xs) : Queue m.malloc.2 ps xs := h.frame rfl fun _ _ => rfl

theorem add_init (allocs : List Bool) (task : BgenvTask) (key : Option (List Char)) (type : UInt64)
    (data : Option (List Char)) (datalen : Nat)
    (h : (EfiBootGuard.journalAddAction task key type data datalen (Mem.init allocs)).1 = 0) :
    Queue (EfiBootGuard.journalAddAction task key type data datalen (Mem.init allocs)).2 [0]
      [newAction task key type data datalen] := by
  rcases (init allocs).journalAddAction task key type data datalen with ⟨-, hq⟩ | ⟨he, -⟩
  · simpa using hq
  · exact absurd (he.symm.trans h) (by decide)

end Queue

def JournalStep (ok : Prop) (m : Mem) (ps : List Nat) (xs as : List EnvAction) : Prop :=
  (ok → ∃ ps', Queue m ps' (xs ++ as)) ∧ (¬ ok → Queue m ps xs)

theorem JournalStep.nil {ok : Prop} {m : Mem} {ps : List Nat} {xs : List EnvAction}
    (h : Queue m ps xs) : JournalStep ok m ps xs [] :=
  ⟨fun _ => ⟨ps, by simpa using h⟩, fun _ => h⟩

theorem journalAddAction_step {m : Mem} {ps : List Nat} {xs : List EnvAction} (h : Queue m ps xs)
    (task : BgenvTask) (key : Option (List Char)) (type : UInt64) (data : Option (List Char))
    (datalen : Nat) :
    JournalStep ((journalAddAction task key type data datalen m).1 = 0)
      (journalAddAction task key type data datalen m).2 ps xs
      [newAction task key type data datalen] := by
  rcases h.journalAddAction task key type data datalen with ⟨h0, hq⟩ | ⟨he, -, -, hq⟩
  · exact ⟨fun _ => ⟨_, hq⟩, fun hn => absurd h0 hn⟩
  · exact ⟨fun h0 => absurd (he.symm.trans h0) (by decide), fun _ => hq⟩

end EfiBootGuard
