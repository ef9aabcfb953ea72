import Mathlib.Algebra.Ring.Nat
import Mathlib.Data.List.Basic
import Mathlib.Logic.Function.Basic

/-!
# Ring buffers

A ring buffer keeps the last entries of a sequence in a fixed number of slots.  The next entry is
written over the oldest one when all slots are taken.

* `RingBuffer`: the slots, the number of them that are taken, and the slot that is written next.
* `push`, `modifyNewest`, `newest?`: a new entry, a change of the newest one, and the newest one.
* `toList`: the entries, the newest first, with `toList_push` and `toList_modifyNewest`.
-/

/-- The slots, the number of entries and the slot that is written next. -/
structure RingBuffer (α : Type*) (capacity : ℕ) where
  slots : Fin capacity → α
  count : ℕ
  next : Fin capacity
  count_le : count ≤ capacity

namespace RingBuffer

variable {α : Type*} {capacity : ℕ} [NeZero capacity] (r : RingBuffer α capacity)

/-- A buffer without entries. -/
def empty (x : α) : RingBuffer α capacity := ⟨fun _ => x, 0, 0, Nat.zero_le _⟩

/-- The slot of the entry that was written before the newest `offset` ones. -/
def index (offset : ℕ) : Fin capacity := Fin.ofNat capacity (r.next + capacity - 1 - offset)

/-- The entry that was written before the newest `offset` ones. -/
def read (offset : ℕ) : α := r.slots (r.index offset)

/-- A new entry. -/
def push (x : α) : RingBuffer α capacity where
  slots := Function.update r.slots r.next x
  count := if r.count < capacity then r.count + 1 else r.count
  next := Fin.ofNat capacity (r.next + 1)
  count_le := by
    have hle := r.count_le
    split_ifs <;> omega

/-- The newest entry. -/
def newest? : Option α := if r.count = 0 then none else some (r.read 0)

/-- The newest entry is changed. -/
def modifyNewest (f : α → α) : RingBuffer α capacity :=
  if r.count = 0 then r
  else { r with slots := Function.update r.slots (r.index 0) (f (r.read 0)) }

/-- The entries, the newest first. -/
def toList : List α := (List.range r.count).map r.read

@[simp] theorem toList_empty (x : α) : (empty x : RingBuffer α capacity).toList = [] := rfl

@[simp] theorem length_toList : r.toList.length = r.count := by
  unfold toList
  rw [List.length_map, List.length_range]

theorem getElem_toList {n : ℕ} (h : n < r.toList.length) : r.toList[n] = r.read n := by
  simp only [toList, List.getElem_map, List.getElem_range]

theorem newest?_eq_head? : r.newest? = r.toList.head? := by
  unfold newest? toList
  cases h : r.count with
  | zero => rfl
  | succ n =>
    rw [if_neg n.succ_ne_zero, List.range_succ_eq_map]
    rfl

/-! ## The slots -/

/-- The remainder of a number that wraps around at most once. -/
theorem mod_of_lt_two_mul {a n : ℕ} (h : a < 2 * n) : a % n = if a < n then a else a - n := by
  split_ifs with hlt
  · exact Nat.mod_eq_of_lt hlt
  · rw [Nat.mod_eq_sub_mod (Nat.not_lt.mp hlt), Nat.mod_eq_of_lt (by omega)]

theorem index_val {offset : ℕ} :
    (r.index offset).val =
      if r.next + capacity - 1 - offset < capacity then r.next + capacity - 1 - offset
      else r.next + capacity - 1 - offset - capacity := by
  have hnext := r.next.isLt
  unfold index
  rw [Fin.val_ofNat]
  exact mod_of_lt_two_mul (by omega)

theorem push_next_val (x : α) :
    ((r.push x).next : ℕ) = if r.next.val + 1 < capacity then r.next.val + 1 else 0 := by
  have hnext := r.next.isLt
  change (Fin.ofNat capacity (r.next + 1)).val = _
  rw [Fin.val_ofNat, mod_of_lt_two_mul (by omega)]
  split_ifs <;> omega

theorem index_push_zero (x : α) : (r.push x).index 0 = r.next := by
  have hnext := r.next.isLt
  refine Fin.ext ?_
  rw [index_val, push_next_val]
  split_ifs <;> omega

theorem index_push_succ (x : α) {offset : ℕ} (h : offset + 1 < capacity) :
    (r.push x).index (offset + 1) = r.index offset ∧ r.index offset ≠ r.next := by
  have hnext := r.next.isLt
  constructor
  · refine Fin.ext ?_
    rw [index_val, index_val, push_next_val]
    split_ifs <;> omega
  · intro heq
    have hval := congrArg Fin.val heq
    rw [index_val] at hval
    split_ifs at hval <;> omega

theorem index_injective {offset offset' : ℕ} (h : offset < capacity) (h' : offset' < capacity)
    (heq : r.index offset = r.index offset') : offset = offset' := by
  have hnext := r.next.isLt
  have hval := congrArg Fin.val heq
  rw [index_val, index_val] at hval
  split_ifs at hval <;> omega

/-! ## The entries -/

theorem read_push_zero (x : α) : (r.push x).read 0 = x := by
  unfold read
  rw [index_push_zero]
  exact Function.update_self _ _ _

theorem read_push_succ (x : α) {offset : ℕ} (h : offset + 1 < capacity) :
    (r.push x).read (offset + 1) = r.read offset := by
  obtain ⟨heq, hne⟩ := r.index_push_succ x h
  unfold read
  rw [heq]
  exact Function.update_of_ne hne _ _

/-- The entries are the last ones that were pushed. -/
theorem toList_push (x : α) : (r.push x).toList = (x :: r.toList).take capacity := by
  have hle := r.count_le
  refine List.ext_getElem ?_ fun n hn hn' => ?_
  · rw [length_toList, List.length_take, List.length_cons, length_toList]
    have hcapacity := Nat.pos_of_neZero capacity
    change (if r.count < capacity then r.count + 1 else r.count) = _
    split_ifs <;> omega
  · rw [List.length_take, List.length_cons, length_toList] at hn'
    rw [List.getElem_take, getElem_toList]
    cases n with
    | zero => exact r.read_push_zero x
    | succ n =>
      rw [List.getElem_cons_succ, getElem_toList]
      exact r.read_push_succ x (by omega)

theorem toList_modifyNewest (f : α → α) :
    (r.modifyNewest f).toList = r.toList.modifyHead f := by
  have hle := r.count_le
  unfold modifyNewest
  split_ifs with hcount
  · have hnil : r.toList = [] := List.length_eq_zero_iff.mp (r.length_toList.trans hcount)
    rw [hnil]
    rfl
  · refine List.ext_getElem ?_ fun n hn hn' => ?_
    · rw [List.length_modifyHead, length_toList, length_toList]
    · rw [length_toList] at hn
      have hlt : n < r.count := hn
      rw [List.getElem_modifyHead, getElem_toList]
      split_ifs with hzero
      · subst hzero
        rw [getElem_toList]
        exact Function.update_self (r.index 0) (f (r.read 0)) r.slots
      · have hne : r.index n ≠ r.index 0 := fun heq =>
          hzero (r.index_injective (by omega) (by omega) heq)
        rw [getElem_toList]
        exact Function.update_of_ne hne (f (r.read 0)) r.slots

end RingBuffer
