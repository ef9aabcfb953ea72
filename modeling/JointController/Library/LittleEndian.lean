import Mathlib.Data.List.Basic
import Mathlib.Data.Nat.Bitwise

/-!
# Little-endian words

The bytes of a number, the lowest one first, and the number that some bytes spell.

* `store`, `load`: the two directions, by the shifts that a program uses.
* `load_cons`, `load_lt`, `load_append`: a word byte by byte.
* `load_store`: a number that fits comes back.
* `store_load`: bytes come back.
* `store_and`: a mask acts on every byte.
-/

namespace LittleEndian

/-- The `n` lowest bytes of a number. -/
def store : ℕ → ℕ → List UInt8
  | 0, _ => []
  | n + 1, v => UInt8.ofNat v :: store n (v >>> 8)

/-- The number that the first `n` bytes spell.  A missing byte counts as zero. -/
def load : ℕ → List UInt8 → ℕ
  | 0, _ => 0
  | n + 1, bytes => (bytes.headD 0).toNat ||| load n bytes.tail <<< 8

@[simp] theorem length_store (n v : ℕ) : (store n v).length = n := by
  induction n generalizing v with
  | zero => rfl
  | succ n ih => rw [store, List.length_cons, ih]

theorem load_cons (n : ℕ) (b : UInt8) (bytes : List UInt8) :
    load (n + 1) (b :: bytes) = b.toNat + 256 * load n bytes := by
  have hor := Nat.shiftLeft_add_eq_or_of_lt b.toNat_lt (load n bytes)
  rw [load, List.headD_cons, List.tail_cons, Nat.or_comm, ← hor, Nat.shiftLeft_eq]
  omega

theorem load_lt {n : ℕ} : ∀ {bytes : List UInt8}, bytes.length = n → load n bytes < 256 ^ n := by
  induction n with
  | zero => exact fun _ => Nat.one_pos
  | succ n ih =>
    intro bytes hlength
    obtain ⟨b, rest, rfl⟩ := List.exists_of_length_succ bytes hlength
    have hrest := ih (Nat.succ_inj.mp hlength)
    have hb := b.toNat_lt
    rw [load_cons, Nat.pow_succ]
    omega

/-- The bytes behind a word are not read. -/
theorem load_append {n : ℕ} (rest : List UInt8) :
    ∀ {bytes : List UInt8}, bytes.length = n → load n (bytes ++ rest) = load n bytes := by
  induction n with
  | zero => exact fun _ => rfl
  | succ n ih =>
    intro bytes hlength
    obtain ⟨b, bytes, rfl⟩ := List.exists_of_length_succ bytes hlength
    rw [List.cons_append, load_cons, load_cons, ih (Nat.succ_inj.mp hlength)]

/-- A number that fits comes back. -/
theorem load_store {n : ℕ} : ∀ {v : ℕ}, v < 256 ^ n → load n (store n v) = v := by
  induction n with
  | zero =>
    intro v hv
    exact (Nat.lt_one_iff.mp hv).symm
  | succ n ih =>
    intro v hv
    have hhigh : v >>> 8 = v / 256 := Nat.shiftRight_eq_div_pow v 8
    have hfits : v / 256 < 256 ^ n := by
      rw [Nat.pow_succ] at hv
      omega
    rw [store, load_cons, hhigh, ih hfits, UInt8.toNat_ofNat']
    exact Nat.mod_add_div v 256

/-- Bytes come back. -/
theorem store_load {n : ℕ} :
    ∀ {bytes : List UInt8}, bytes.length = n → store n (load n bytes) = bytes := by
  induction n with
  | zero => exact fun h => (List.eq_nil_of_length_eq_zero h).symm
  | succ n ih =>
    intro bytes hlength
    obtain ⟨b, bytes, rfl⟩ := List.exists_of_length_succ bytes hlength
    have hb := b.toNat_lt
    have hlow : UInt8.ofNat (load (n + 1) (b :: bytes)) = b := by
      rw [← UInt8.toNat_inj, UInt8.toNat_ofNat', load_cons]
      omega
    have hhigh : load (n + 1) (b :: bytes) >>> 8 = load n bytes := by
      rw [load_cons, Nat.shiftRight_eq_div_pow]
      omega
    rw [store, hlow, hhigh, ih (Nat.succ_inj.mp hlength)]

/-- A mask acts on every byte. -/
theorem store_and (n : ℕ) : ∀ v mask : ℕ,
    store n (v &&& mask) = List.zipWith (· &&& ·) (store n v) (store n mask) := by
  induction n with
  | zero => exact fun _ _ => rfl
  | succ n ih =>
    intro v mask
    rw [store, store, store, List.zipWith_cons_cons, UInt8.ofNat_and, Nat.shiftRight_and_distrib,
      ih]

end LittleEndian
