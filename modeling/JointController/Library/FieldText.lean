import Mathlib.Data.List.DropRight
import Mathlib.Data.List.Infix

/-!
# Lines and trimmed fields

Reading a text by lines, and a line without the blanks around it.

* `trim`: a text without the blanks at its ends, with `trim_eq_self_iff` and `trim_trim`.
* `lines`: the lines of a text, each ended by a newline or by the end of the text.
* `lines_line`: the first line of a text.
* `notMem_of_mem_lines`: a line does not contain a newline.
* `before`, `behind`: the two sides of a separator, with `before_append` and `behind_append`.
-/

namespace FieldText

variable {α : Type*}

/-! ## Trimming -/

section Trim

variable (blank : α → Bool)

/-- A text without the blanks at its ends. -/
def trim (text : List α) : List α := (text.dropWhile blank).rdropWhile blank

theorem mem_of_mem_trim {text : List α} {a : α} (h : a ∈ trim blank text) : a ∈ text :=
  (List.dropWhile_suffix blank).subset ((List.rdropWhile_prefix blank _).subset h)

/-- A text is trimmed when it neither begins nor ends with a blank. -/
theorem trim_eq_self_iff {text : List α} :
    trim blank text = text ↔
      (∀ a ∈ text.head?, blank a = false) ∧ ∀ a ∈ text.getLast?, blank a = false := by
  constructor
  · intro h
    have hdrop : text.dropWhile blank = text := by
      have hle : text.length ≤ (text.dropWhile blank).length := by
        conv_lhs => rw [← h]
        exact (List.rdropWhile_prefix blank _).length_le
      exact (List.dropWhile_suffix blank).eq_of_length_le hle
    rw [trim, hdrop, List.rdropWhile_eq_self_iff] at h
    rw [List.dropWhile_eq_self_iff] at hdrop
    refine ⟨fun a ha => ?_, fun a ha => ?_⟩
    · cases text with
      | nil => exact absurd ha (Option.not_mem_none a)
      | cons b rest =>
        obtain rfl : b = a := Option.some.inj ha
        simpa using hdrop (Nat.succ_pos _)
    · obtain ⟨hne, rfl⟩ := List.mem_getLast?_eq_getLast ha
      simpa using h hne
  · rintro ⟨hhead, hlast⟩
    have hdrop : text.dropWhile blank = text := by
      rw [List.dropWhile_eq_self_iff]
      intro hlength
      cases text with
      | nil => exact absurd hlength (Nat.lt_irrefl 0)
      | cons b rest => simpa using hhead b rfl
    rw [trim, hdrop, List.rdropWhile_eq_self_iff]
    intro hne
    simpa using hlast _ (List.getLast?_eq_some_getLast hne)

@[simp] theorem trim_trim (text : List α) : trim blank (trim blank text) = trim blank text := by
  rw [trim_eq_self_iff]
  refine ⟨fun a ha => ?_, fun a ha => ?_⟩
  · obtain ⟨rest, hrest⟩ := List.head?_eq_some_iff.mp ha
    obtain ⟨behind, hbehind⟩ := List.rdropWhile_prefix blank (text.dropWhile blank)
    have hdrop := List.head?_dropWhile_not blank text
    rw [← hbehind] at hdrop
    rw [trim] at hrest
    rw [hrest] at hdrop
    exact hdrop
  · obtain ⟨hne, rfl⟩ := List.mem_getLast?_eq_getLast ha
    have hlast := List.rdropWhile_last_not blank (text.dropWhile blank) hne
    rw [Bool.not_eq_true] at hlast
    exact hlast

end Trim

/-! ## Lines -/

section Lines

variable [DecidableEq α] (newline : α)

/-- The lines of a text behind some characters of its first line. -/
def linesFrom (current : List α) : List α → List (List α)
  | [] => if current = [] then [] else [current]
  | a :: rest =>
    if a = newline then current :: linesFrom [] rest else linesFrom (current ++ [a]) rest

/-- The lines of a text, each ended by a newline or by the end of the text. -/
def lines (text : List α) : List (List α) := linesFrom newline [] text

theorem linesFrom_line {line : List α} (h : newline ∉ line) (current rest : List α) :
    linesFrom newline current (line ++ newline :: rest) =
      (current ++ line) :: linesFrom newline [] rest := by
  induction line generalizing current with
  | nil => rw [List.nil_append, List.append_nil, linesFrom, if_pos rfl]
  | cons a line ih =>
    have hne : a ≠ newline := fun ha => h (ha ▸ List.mem_cons_self)
    have hline : newline ∉ line := fun hmem => h (List.mem_cons_of_mem a hmem)
    rw [List.cons_append, linesFrom, if_neg hne, ih hline, List.append_assoc, List.singleton_append]

/-- A line and its newline in front of a text. -/
theorem lines_line {line : List α} (h : newline ∉ line) (rest : List α) :
    lines newline (line ++ newline :: rest) = line :: lines newline rest :=
  linesFrom_line newline h [] rest

@[simp] theorem lines_nil : lines newline ([] : List α) = [] := by
  rw [lines, linesFrom, if_pos rfl]

theorem notMem_of_mem_linesFrom {text current line : List α} (hcurrent : newline ∉ current)
    (h : line ∈ linesFrom newline current text) : newline ∉ line := by
  induction text generalizing current with
  | nil =>
    rw [linesFrom] at h
    split_ifs at h with hnil
    · exact absurd h List.not_mem_nil
    · rwa [List.mem_singleton.mp h]
  | cons a text ih =>
    rw [linesFrom] at h
    split_ifs at h with ha
    · obtain rfl | h := List.mem_cons.mp h
      · exact hcurrent
      · exact ih List.not_mem_nil h
    · refine ih ?_ h
      intro hmem
      obtain hmem | hmem := List.mem_append.mp hmem
      · exact hcurrent hmem
      · exact ha (List.mem_singleton.mp hmem).symm

/-- A line does not contain a newline. -/
theorem notMem_of_mem_lines {text line : List α} (h : line ∈ lines newline text) :
    newline ∉ line :=
  notMem_of_mem_linesFrom newline List.not_mem_nil h

end Lines

/-! ## Separators -/

section Separator

variable [DecidableEq α] {separator : α}

/-- The text up to the first separator. -/
def before (separator : α) (text : List α) : List α := text.takeWhile (· ≠ separator)

/-- The text behind the first separator. -/
def behind (separator : α) (text : List α) : List α := (text.dropWhile (· ≠ separator)).drop 1

theorem before_append {key : List α} (h : separator ∉ key) (rest : List α) :
    before separator (key ++ separator :: rest) = key := by
  have hkey : ∀ a ∈ key, decide (a ≠ separator) = true := by
    intro a ha
    exact decide_eq_true fun he => h (he ▸ ha)
  have hstop : (separator :: rest).takeWhile (· ≠ separator) = [] :=
    List.takeWhile_cons_of_neg (by simp)
  rw [before, List.takeWhile_append_of_pos hkey, hstop, List.append_nil]

theorem behind_append {key : List α} (h : separator ∉ key) (rest : List α) :
    behind separator (key ++ separator :: rest) = rest := by
  have hkey : ∀ a ∈ key, decide (a ≠ separator) = true := by
    intro a ha
    exact decide_eq_true fun he => h (he ▸ ha)
  have hstop : (separator :: rest).dropWhile (· ≠ separator) = separator :: rest :=
    List.dropWhile_cons_of_neg (by simp)
  rw [behind, List.dropWhile_append_of_pos hkey, hstop, List.drop_succ_cons, List.drop_zero]

theorem before_eq_self {text : List α} (h : separator ∉ text) : before separator text = text := by
  rw [before, List.takeWhile_eq_self_iff]
  intro a ha
  exact decide_eq_true fun he => h (he ▸ ha)

theorem notMem_before (text : List α) : separator ∉ before separator text := by
  intro h
  have hall := List.mem_takeWhile_imp h
  simp at hall

theorem mem_of_mem_before {text : List α} {a : α} (h : a ∈ before separator text) : a ∈ text :=
  (List.takeWhile_prefix _).subset h

theorem mem_of_mem_behind {text : List α} {a : α} (h : a ∈ behind separator text) : a ∈ text :=
  (List.dropWhile_suffix _).subset (List.mem_of_mem_drop h)

end Separator

end FieldText
