import EfiBootGuard.Libc
import Mathlib.Data.List.Nodup

/-!
The action journal (bg_setenv.c, lines 117-171): `struct env_action` cells on the heap,
linked into the global `STAILQ_HEAD (stailhead, env_action) head` by the macros of
sys/queue.h, and `journal_add_action`.

`Mem` holds the cells (`none` once freed), `head`, and the outcomes of the allocations to come:
`false` is a `calloc`, `malloc`, `asprintf` or `strdup` that fails, and once the list is used up
every allocation succeeds. A `Link` is a place holding a `struct env_action *`, where
`stqh_last` points. `newAction` is what `journal_add_action` stores: a copy of the key, and of the
first `datalen` bytes of the data when both are there; `AddCall` gathers the arguments of one
call.
-/

namespace EfiBootGuard

inductive BgenvTask
  | ENV_TASK_SET
  | ENV_TASK_DEL
deriving DecidableEq, Repr

structure EnvAction where
  key : Option (List Char)
  type : UInt64
  data : Option (List Char)
  task : BgenvTask
deriving DecidableEq, Repr

structure Node where
  action : EnvAction
  stqe_next : Option Nat
deriving DecidableEq, Repr

inductive Link
  | stqh_first
  | stqe_next (p : Nat)
deriving DecidableEq, Repr

structure Stailhead where
  stqh_first : Option Nat
  stqh_last : Link
deriving DecidableEq, Repr

structure Mem where
  cells : List (Option Node)
  head : Stailhead
  allocs : List Bool
deriving DecidableEq, Repr

namespace Mem

def init (allocs : List Bool) : Mem := ⟨[], ⟨none, .stqh_first⟩, allocs⟩

def read (m : Mem) (p : Nat) : Option Node := m.cells.getD p none

def malloc (m : Mem) : Bool × Mem := (m.allocs.headD true, { m with allocs := m.allocs.tail })

def alloc (m : Mem) (n : Node) : Mem := { m with cells := m.cells ++ [some n] }

def free (m : Mem) (p : Nat) : Mem := { m with cells := m.cells.set p none }

def write (m : Mem) (p : Nat) (n : Node) : Mem := { m with cells := m.cells.set p (some n) }

def setHead (m : Mem) (h : Stailhead) : Mem := { m with head := h }

def store (m : Mem) (l : Link) (v : Option Nat) : Mem :=
  match l with
  | .stqh_first => m.setHead { m.head with stqh_first := v }
  | .stqe_next q =>
    match m.read q with
    | some n => m.write q { n with stqe_next := v }
    | none => m

def AllocOk (m : Mem) (k : Nat) : Prop := ∀ b ∈ m.allocs.take k, b = true

@[simp] theorem malloc_cells (m : Mem) : m.malloc.2.cells = m.cells := rfl
@[simp] theorem malloc_head (m : Mem) : m.malloc.2.head = m.head := rfl
@[simp] theorem alloc_cells (m : Mem) (n : Node) : (m.alloc n).cells = m.cells ++ [some n] := rfl
@[simp] theorem alloc_head (m : Mem) (n : Node) : (m.alloc n).head = m.head := rfl
@[simp] theorem write_cells_length (m : Mem) (p : Nat) (n : Node) :
    (m.write p n).cells.length = m.cells.length := by simp [write]
@[simp] theorem write_head (m : Mem) (p : Nat) (n : Node) : (m.write p n).head = m.head := rfl
@[simp] theorem free_head (m : Mem) (p : Nat) : (m.free p).head = m.head := rfl
@[simp] theorem setHead_head (m : Mem) (h : Stailhead) : (m.setHead h).head = h := rfl
@[simp] theorem setHead_read (m : Mem) (h : Stailhead) (p : Nat) : (m.setHead h).read p = m.read p :=
  rfl
@[simp] theorem malloc_read (m : Mem) (p : Nat) : m.malloc.2.read p = m.read p := rfl

@[simp] theorem store_stqh_first (m : Mem) (v : Option Nat) :
    m.store .stqh_first v = m.setHead { m.head with stqh_first := v } := rfl

theorem store_stqe_next {m : Mem} {q : Nat} {n : Node} (h : m.read q = some n) (v : Option Nat) :
    m.store (.stqe_next q) v = m.write q { n with stqe_next := v } := by
  simp [store, h]

theorem lt_of_read {m : Mem} {p : Nat} {n : Node} (h : m.read p = some n) : p < m.cells.length := by
  by_contra hp
  simp [read, List.getD_eq_getElem?_getD, List.getElem?_eq_none (Nat.le_of_not_lt hp)] at h

theorem read_alloc_of_lt (m : Mem) (n : Node) {p : Nat} (hp : p < m.cells.length) :
    (m.alloc n).read p = m.read p := by
  simp [read, alloc, List.getD_eq_getElem?_getD, List.getElem?_append_left hp]

@[simp] theorem read_alloc_self (m : Mem) (n : Node) : (m.alloc n).read m.cells.length = some n := by
  simp [read, alloc, List.getD_eq_getElem?_getD]

theorem read_write (m : Mem) (p q : Nat) (n : Node) :
    (m.write p n).read q = if p = q ∧ p < m.cells.length then some n else m.read q := by
  simp only [read, write, List.getD_eq_getElem?_getD, List.getElem?_set]
  by_cases h : p = q
  · subst h
    by_cases hq : p < m.cells.length
    · simp [hq]
    · simp [hq, List.getElem?_eq_none (Nat.le_of_not_lt hq)]
  · simp [h]

theorem read_free (m : Mem) (p q : Nat) :
    (m.free p).read q = if p = q then none else m.read q := by
  simp only [read, free, List.getD_eq_getElem?_getD, List.getElem?_set]
  by_cases h : p = q <;> simp [h]
  split_ifs <;> simp_all

end Mem

def stailqInsertTail (m : Mem) (p : Nat) : Mem :=
  let m := m.store (.stqe_next p) none
  let m := m.store m.head.stqh_last (some p)
  m.setHead { m.head with stqh_last := .stqe_next p }

def stailqRemoveHead (m : Mem) : Mem :=
  let first := (m.head.stqh_first.bind m.read).bind Node.stqe_next
  let m := m.setHead { m.head with stqh_first := first }
  if first = none then m.setHead { m.head with stqh_last := .stqh_first } else m

def journalFreeAction (m : Mem) : Option Nat → Mem
  | none => m
  | some p => m.free p

def newAction (task : BgenvTask) (key : Option (List Char)) (type : UInt64)
    (data : Option (List Char)) (datalen : Nat) : EnvAction :=
  ⟨key, type, if data.isSome && datalen != 0 then data.map (·.take datalen) else none, task⟩

structure AddCall where
  task : BgenvTask
  key : Option (List Char)
  type : UInt64
  data : Option (List Char)
  datalen : Nat
deriving DecidableEq, Repr

def AddCall.action (a : AddCall) : EnvAction := newAction a.task a.key a.type a.data a.datalen

def addAllocs (key data : Option (List Char)) (datalen : Nat) : Nat :=
  1 + (if key.isSome then 1 else 0) + (if data.isSome && datalen != 0 then 1 else 0)

def journalAddAction (task : BgenvTask) (key : Option (List Char)) (type : UInt64)
    (data : Option (List Char)) (datalen : Nat) (m : Mem) : Nat × Mem :=
  let (ok, m) := m.malloc
  if !ok then (ENOMEM, m) else
  let p := m.cells.length
  let m := m.alloc ⟨⟨none, 0, none, task⟩, none⟩
  let (ok, m) := if key.isSome then m.malloc else (true, m)
  if !ok then (ENOMEM, journalFreeAction m (some p)) else
  let (ok, m) := if data.isSome && datalen != 0 then m.malloc else (true, m)
  if !ok then (ENOMEM, journalFreeAction m (some p)) else
  (0, stailqInsertTail (m.write p ⟨newAction task key type data datalen, none⟩) p)

namespace Mem

def dropAllocs (m : Mem) (k : Nat) : Mem := { m with allocs := m.allocs.drop k }

instance (m : Mem) (k : Nat) : Decidable (m.AllocOk k) := inferInstanceAs (Decidable (∀ _ ∈ _, _))

theorem allocOk_add (m : Mem) (a b : Nat) :
    m.AllocOk (a + b) ↔ m.AllocOk a ∧ (m.dropAllocs a).AllocOk b := by
  simp only [AllocOk, dropAllocs, List.take_add, List.mem_append, or_imp, forall_and]

@[simp] theorem allocOk_zero (m : Mem) : m.AllocOk 0 := by simp [AllocOk]

@[simp] theorem allocOk_alloc (m : Mem) (n : Node) (k : Nat) :
    (m.alloc n).AllocOk k ↔ m.AllocOk k := Iff.rfl

@[simp] theorem dropAllocs_zero (m : Mem) : m.dropAllocs 0 = m := rfl

theorem dropAllocs_add (m : Mem) (a b : Nat) :
    (m.dropAllocs a).dropAllocs b = m.dropAllocs (a + b) := by
  simp [dropAllocs, Nat.add_comm]

theorem malloc_eq (m : Mem) : m.malloc = (decide (m.AllocOk 1), m.dropAllocs 1) := by
  rcases m with ⟨cells, head, _ | ⟨b, bs⟩⟩ <;> simp [malloc, AllocOk, dropAllocs]

theorem ite_malloc_eq (c : Bool) (m : Mem) :
    (if c then m.malloc else (true, m)) =
      (decide (m.AllocOk (if c then 1 else 0)), m.dropAllocs (if c then 1 else 0)) := by
  cases c <;> simp [malloc_eq]

theorem alloc_write_self (m : Mem) (z n : Node) : (m.alloc z).write m.cells.length n = m.alloc n := by
  simp [alloc, write]

theorem alloc_dropAllocs (m : Mem) (n : Node) (k : Nat) :
    (m.alloc n).dropAllocs k = (m.dropAllocs k).alloc n := rfl

@[simp] theorem dropAllocs_cells (m : Mem) (k : Nat) : (m.dropAllocs k).cells = m.cells := rfl
@[simp] theorem dropAllocs_head (m : Mem) (k : Nat) : (m.dropAllocs k).head = m.head := rfl
@[simp] theorem dropAllocs_read (m : Mem) (k : Nat) (p : Nat) : (m.dropAllocs k).read p = m.read p := rfl

theorem read_alloc_free (m : Mem) (n : Node) {p : Nat} (hp : p < m.cells.length) :
    ((m.alloc n).free m.cells.length).read p = m.read p := by
  rw [read_free, if_neg (by omega), read_alloc_of_lt _ _ hp]

end Mem

theorem journalAddAction_spec (task : BgenvTask) (key : Option (List Char)) (type : UInt64)
    (data : Option (List Char)) (datalen : Nat) (m : Mem) :
    (m.AllocOk (addAllocs key data datalen) ∧
      journalAddAction task key type data datalen m =
        (0, stailqInsertTail ((m.dropAllocs (addAllocs key data datalen)).alloc
          ⟨newAction task key type data datalen, none⟩) m.cells.length)) ∨
    (¬ m.AllocOk (addAllocs key data datalen) ∧
      (journalAddAction task key type data datalen m).1 = ENOMEM ∧
      (journalAddAction task key type data datalen m).2.head = m.head ∧
      ∀ p < m.cells.length, (journalAddAction task key type data datalen m).2.read p = m.read p) := by
  simp only [journalAddAction, Mem.ite_malloc_eq]
  simp only [Mem.malloc_eq, addAllocs, Mem.allocOk_add, Mem.dropAllocs_add, Mem.allocOk_alloc,
    Mem.alloc_dropAllocs, Mem.dropAllocs_cells, Nat.add_assoc]
  generalize (if key.isSome then 1 else 0) = kk
  generalize (if data.isSome && datalen != 0 then 1 else 0) = kd
  by_cases h1 : m.AllocOk 1
  · by_cases h2 : (m.dropAllocs 1).AllocOk kk
    · by_cases h3 : (m.dropAllocs (1 + kk)).AllocOk kd
      · left
        simpa [← Nat.add_assoc, h1, h2, h3] using
          congrArg (stailqInsertTail · m.cells.length) (Mem.alloc_write_self (m.dropAllocs _) _ _)
      · right
        simpa [← Nat.add_assoc, h1, h2, h3, journalFreeAction] using
          fun p => Mem.read_alloc_free (m.dropAllocs (1 + kk + kd)) _ (p := p)
    · right
      simpa [h1, h2, journalFreeAction] using
        fun p => Mem.read_alloc_free (m.dropAllocs (1 + kk)) _ (p := p)
  · right
    simp [h1]

theorem journalAddAction_ok_iff (task : BgenvTask) (key : Option (List Char)) (type : UInt64)
    (data : Option (List Char)) (datalen : Nat) (m : Mem) :
    (journalAddAction task key type data datalen m).1 = 0 ↔ m.AllocOk (addAllocs key data datalen) := by
  rcases journalAddAction_spec task key type data datalen m with ⟨h, he⟩ | ⟨h, he, -⟩
  · simp [he, h]
  · simp [he, h, ENOMEM]

end EfiBootGuard
