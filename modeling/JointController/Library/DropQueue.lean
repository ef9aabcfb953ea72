import Mathlib.Data.List.Basic

/-!
# Queues that drop their oldest items

* `DropQueue`: a queue of at most `n` items.
* `DropQueue.push`, `DropQueue.pop?`: an item is put in at the back, where the queue drops its
  oldest items if it has to, and taken out at the front.
* `mem_push`, `mem_of_pop?`: what is in the queue afterwards.
* `map_push`, `map_pop?`: a queue of annotated items works like the queue without annotations.
-/

/-- A queue of at most `n` items, the oldest first. -/
structure DropQueue (α : Type*) (n : ℕ) where
  items : List α
  length_le : items.length ≤ n
  deriving DecidableEq

namespace DropQueue

variable {α : Type*} {n : ℕ} {q : DropQueue α n} {a b : α}

theorem length_drop_le (as : List α) (n : ℕ) : (as.drop (as.length - n)).length ≤ n := by
  rw [List.length_drop]
  omega

/-- No items. -/
def empty : DropQueue α n := ⟨[], n.zero_le⟩

/-- An item is put in at the back; the oldest items go while there are too many. -/
def push (q : DropQueue α n) (a : α) : DropQueue α n :=
  ⟨(q.items ++ [a]).drop ((q.items ++ [a]).length - n), length_drop_le _ n⟩

/-- The oldest item, and the rest. -/
def pop? : DropQueue α n → Option (α × DropQueue α n)
  | ⟨[], _⟩ => none
  | ⟨a :: as, h⟩ => some (a, ⟨as, Nat.le_of_succ_le h⟩)

theorem mem_push (h : b ∈ (q.push a).items) : b ∈ q.items ∨ b = a := by
  have hmem := List.mem_append.mp (List.mem_of_mem_drop h)
  exact hmem.imp_right List.mem_singleton.mp

theorem items_push (h : q.items.length < n) : (q.push a).items = q.items ++ [a] := by
  have hfits : (q.items ++ [a]).length - n = 0 := by
    rw [List.length_append, List.length_singleton]
    omega
  show (q.items ++ [a]).drop _ = _
  rw [hfits, List.drop_zero]

/-- What goes into an empty queue stays in it. -/
theorem push_empty_ne (hn : 0 < n) : (empty : DropQueue α n).push a ≠ empty := by
  intro h
  have hitems := congrArg items h
  rw [items_push (q := empty) hn] at hitems
  exact List.cons_ne_nil a [] hitems

theorem items_of_pop? {rest : DropQueue α n} (h : q.pop? = some (a, rest)) :
    q.items = a :: rest.items := by
  rcases q with ⟨_ | ⟨c, cs⟩, hq⟩
  · cases h
  · obtain ⟨rfl, rfl⟩ := Prod.mk.inj (Option.some_inj.mp h)
    rfl

/-- What is taken out, and what stays, was in the queue. -/
theorem mem_of_pop? {rest : DropQueue α n} (h : q.pop? = some (a, rest)) :
    a ∈ q.items ∧ ∀ b ∈ rest.items, b ∈ q.items := by
  rw [items_of_pop? h]
  exact ⟨List.mem_cons_self, fun b hb => List.mem_cons_of_mem a hb⟩

/-! ## Annotations -/

variable {β : Type*}

/-- The queue of the images. -/
def map (f : α → β) (q : DropQueue α n) : DropQueue β n :=
  ⟨q.items.map f, Nat.le_trans (Nat.le_of_eq (List.length_map f)) q.length_le⟩

theorem map_push (f : α → β) : (q.push a).map f = (q.map f).push (f a) := by
  unfold map push
  simp only [mk.injEq]
  rw [List.map_drop, List.map_append, List.map_singleton, List.length_append, List.length_append,
    List.length_map, List.length_singleton, List.length_singleton]

theorem map_pop? (f : α → β) :
    (q.map f).pop? = q.pop?.map fun taken => (f taken.1, taken.2.map f) := by
  rcases q with ⟨_ | ⟨c, cs⟩, hq⟩ <;> rfl

end DropQueue
