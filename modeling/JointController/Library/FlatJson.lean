import JointController.Library.Double
import JointController.Library.KeyedEntries
import Mathlib.Data.List.Nodup
import Mathlib.Data.List.TakeWhile

/-!
# JSON texts of flat objects

An object whose members are texts, truth values and numbers is written as a text, and a reader of
JSON finds its members in the text again.

* `Literal`, `objectText`: the members and the text of an object.
* `Value`, `Document`: what a reader finds.
* `Faithful`: a reader that accepts the text of an object finds every member in it.
* `read`: a reader of flat objects, with `faithful_read`.
-/

namespace FlatJson

/-! ## Texts of objects -/

/-- A member as it is written: a text between quotes, a truth value, an integer, or the text of some
other number. -/
inductive Literal where
  | text (s : List Char)
  | boolean (b : Bool)
  | integer (n : ℤ)
  | number (t : List Char)
  deriving DecidableEq

/-- The decimal digits of an integer. -/
def integerText : ℤ → List Char
  | .ofNat n => Nat.toDigits 10 n
  | .negSucc n => '-' :: Nat.toDigits 10 (n + 1)

/-- What is written for a literal. -/
def Literal.written : Literal → List Char
  | text s => '"' :: (s ++ ['"'])
  | boolean true => ['t', 'r', 'u', 'e']
  | boolean false => ['f', 'a', 'l', 's', 'e']
  | integer n => integerText n
  | number t => t

/-- A member: its key and its literal. -/
abbrev Member := List Char × Literal

/-- What is written for a member. -/
def memberText (m : Member) : List Char := '"' :: (m.1 ++ '"' :: ':' :: m.2.written)

/-- The members behind one another, up to the closing brace. -/
def membersText : List Member → List Char
  | [] => ['}']
  | [m] => memberText m ++ ['}']
  | m :: m' :: members => memberText m ++ ',' :: membersText (m' :: members)

/-- The text of an object. -/
def objectText (members : List Member) : List Char := '{' :: membersText members

/-- A character that stands for itself between quotes. -/
def plain (c : Char) : Bool := c != '"' && c != '\\' && decide (32 ≤ c.toNat)

/-- A character of a number, or of what is printed where there is none. -/
def ofNumber (c : Char) : Bool :=
  c.isDigit || c == '+' || c == '-' || c == '.' || c == 'e' || c == 'n' || c == 'a' || c == 'i' ||
    c == 'f'

/-- The literal is written without characters that need an escape. -/
def Literal.Plain : Literal → Prop
  | text s => ∀ c ∈ s, plain c = true
  | number t => ∀ c ∈ t, ofNumber c = true
  | boolean _ | integer _ => True

/-- The members have plain keys, each of them once, and plain literals. -/
structure PlainObject (members : List Member) : Prop where
  nodup : (members.map Prod.fst).Nodup
  keys : ∀ m ∈ members, ∀ c ∈ m.1, plain c = true
  literals : ∀ m ∈ members, m.2.Plain

/-! ## What a reader finds -/

/-- A value. -/
inductive Value where
  | null
  | text (s : List Char)
  | boolean (b : Bool)
  | integer (n : ℤ)
  | real (x : Double)
  -- an array or an object
  | compound
  deriving DecidableEq

/-- The root of a text: an object with its members, or some other value. -/
inductive Document where
  | object (members : List (List Char × Value))
  | other
  deriving DecidableEq

/-- The value of the member with a key. -/
def find (members : List (List Char × Value)) (key : List Char) : Option Value :=
  (KeyedEntries.first Prod.fst members key).map Prod.snd

/-- The value that a literal has in every reader.  How the text of a number that is not an integer
is rounded is left open, as is an integer beyond 64 bits. -/
def Literal.value? : Literal → Option Value
  | text s => some (.text s)
  | boolean b => some (.boolean b)
  | integer n => if -2 ^ 63 ≤ n ∧ n < 2 ^ 63 then some (.integer n) else none
  | number _ => none

/-- A reader that accepts the text of an object finds every member in it. -/
def Faithful {ε : Type*} (parse : List Char → Except ε Document) : Prop :=
  ∀ members document, PlainObject members → parse (objectText members) = .ok document →
    ∃ values, document = .object values ∧
      ∀ m ∈ members, ∀ value, m.2.value? = some value → find values m.1 = some value

/-! ## A reader of flat objects -/

/-- The digits of a number. -/
def readDigits (t : List Char) : Option ℕ :=
  if t ≠ [] ∧ t.all Char.isDigit then some (Nat.ofDigitChars 10 t 0) else none

/-- A number without a sign and an exponent: an integer, or a decimal fraction. -/
def readDecimal (t : List Char) : Option (ℕ × Option ℚ) :=
  match t.dropWhile Char.isDigit with
  | [] => (readDigits t).map (·, none)
  | point :: decimals =>
    if point ≠ '.' then none
    else
      (readDigits (t.takeWhile Char.isDigit)).bind fun whole =>
        (readDigits decimals).map fun fraction =>
          (whole, some (whole + (fraction : ℚ) / 10 ^ decimals.length))

/-- An exponent. -/
def readExponent (t : List Char) : Option ℤ :=
  if t.head? = some '-' then (readDigits t.tail).map fun n => -n
  else if t.head? = some '+' then (readDigits t.tail).map fun n => n
  else (readDigits t).map fun n => n

/-- A number without a sign. -/
def readMagnitude (t : List Char) : Option (ℕ × Option ℚ) :=
  match t.dropWhile (· != 'e') with
  | [] => readDecimal t
  | _ :: exponent =>
    (readDecimal (t.takeWhile (· != 'e'))).bind fun mantissa =>
      (readExponent exponent).map fun e =>
        (mantissa.1, some (mantissa.2.getD mantissa.1 * (10 : ℚ) ^ e))

/-- A number with its sign. -/
def signed (negative : Bool) : ℕ × Option ℚ → Value
  | (n, none) => .integer (if negative then -n else n)
  | (_, some x) => .real (.finite (if negative then -x else x))

/-- A number. -/
def readNumber (t : List Char) : Option Value :=
  if t.head? = some '-' then (readMagnitude t.tail).map (signed true)
  else (readMagnitude t).map (signed false)

/-- A value that is not a text. -/
def readToken (t : List Char) : Option Value :=
  if t = ['t', 'r', 'u', 'e'] then some (.boolean true)
  else if t = ['f', 'a', 'l', 's', 'e'] then some (.boolean false)
  else readNumber t

/-- A text up to its closing quote. -/
def readText (cs : List Char) : Option (List Char × List Char) :=
  match cs.dropWhile (· != '"') with
  | [] => none
  | _ :: rest => some (cs.takeWhile (· != '"'), rest)

/-- A character does not end a value. -/
def continues (c : Char) : Bool := c != ',' && c != '}'

/-- A value. -/
def readValue (cs : List Char) : Option (Value × List Char) :=
  if cs.head? = some '"' then (readText cs.tail).map fun (s, rest) => (.text s, rest)
  else (readToken (cs.takeWhile continues)).map (·, cs.dropWhile continues)

/-- A member. -/
def readMember : List Char → Option ((List Char × Value) × List Char)
  | '"' :: cs =>
    (readText cs).bind fun
      | (key, ':' :: rest) => (readValue rest).map fun (value, rest) => ((key, value), rest)
      | _ => none
  | _ => none

/-- The members up to the closing brace, which has to end the text; the first argument bounds their
number. -/
def readMembers : ℕ → List Char → Option (List (List Char × Value))
  | 0, _ => none
  | fuel + 1, cs =>
    if cs = ['}'] then some []
    else
      (readMember cs).bind fun
        | (m, ',' :: rest) => (readMembers fuel rest).map (m :: ·)
        | (m, ['}']) => some [m]
        | _ => none

/-- A reader of flat objects. -/
def read : List Char → Except String Document
  | '{' :: cs =>
    (readMembers cs.length cs).elim (.error "not a flat object") fun members =>
      .ok (.object members)
  | _ => .error "not an object"

/-! ## Numbers -/

theorem readDigits_toDigits (n : ℕ) : readDigits (Nat.toDigits 10 n) = some n := by
  have hall : (Nat.toDigits 10 n).all Char.isDigit = true :=
    List.all_eq_true.mpr fun c hc =>
      Nat.isDigit_of_mem_toDigits (by decide) (Nat.le_refl 10) hc
  rw [readDigits, if_pos ⟨Nat.toDigits_ne_nil, hall⟩, Nat.ofDigitChars_ten_toDigits]

theorem readMagnitude_toDigits (n : ℕ) : readMagnitude (Nat.toDigits 10 n) = some (n, none) := by
  have hdigits : ∀ c ∈ Nat.toDigits 10 n, c.isDigit = true := fun c hc =>
    Nat.isDigit_of_mem_toDigits (by decide) (Nat.le_refl 10) hc
  have hdrop : (Nat.toDigits 10 n).dropWhile Char.isDigit = [] :=
    List.dropWhile_eq_nil_iff.mpr hdigits
  have hexponent : (Nat.toDigits 10 n).dropWhile (· != 'e') = [] := by
    refine List.dropWhile_eq_nil_iff.mpr fun c hc => bne_iff_ne.mpr ?_
    rintro rfl
    exact absurd (hdigits _ hc) (by decide)
  unfold readMagnitude
  rw [hexponent]
  unfold readDecimal
  rw [hdrop, readDigits_toDigits]
  rfl

theorem isDigit_head {n : ℕ} {c : Char} (h : (Nat.toDigits 10 n).head? = some c) :
    c.isDigit = true :=
  Nat.isDigit_of_mem_toDigits (by decide) (Nat.le_refl 10) (List.mem_of_mem_head? h)

theorem readNumber_integerText (n : ℤ) : readNumber (integerText n) = some (.integer n) := by
  cases n with
  | ofNat n =>
    have hhead : ¬ (integerText (.ofNat n)).head? = some '-' := by
      intro h
      exact absurd (isDigit_head h) (by decide)
    rw [readNumber, if_neg hhead, integerText, readMagnitude_toDigits]
    rfl
  | negSucc n =>
    have hhead : (integerText (.negSucc n)).head? = some '-' := rfl
    rw [readNumber, if_pos hhead, integerText, List.tail_cons, readMagnitude_toDigits]
    rfl

/-- An integer is written with a sign and digits. -/
theorem mem_integerText {n : ℤ} {c : Char} (h : c ∈ integerText n) :
    c.isDigit = true ∨ c = '-' := by
  have hdigit {m : ℕ} (hc : c ∈ Nat.toDigits 10 m) : c.isDigit = true :=
    Nat.isDigit_of_mem_toDigits (by decide) (Nat.le_refl 10) hc
  cases n with
  | ofNat n => exact Or.inl (hdigit h)
  | negSucc n =>
    rcases List.mem_cons.mp h with rfl | h
    · exact Or.inr rfl
    · exact Or.inl (hdigit h)

/-! ## Texts -/

theorem readText_append {s : List Char} (h : ∀ c ∈ s, plain c = true) (rest : List Char) :
    readText (s ++ '"' :: rest) = some (s, rest) := by
  have hquote : ∀ c ∈ s, (c != '"') = true := by
    intro c hc
    have hplain := h c hc
    simp only [plain, Bool.and_eq_true] at hplain
    exact hplain.1.1
  have hdrop : (s ++ '"' :: rest).dropWhile (· != '"') = '"' :: rest := by
    rw [List.dropWhile_append_of_pos hquote]
    rfl
  have htake : (s ++ '"' :: rest).takeWhile (· != '"') = s := by
    rw [List.takeWhile_append_of_pos hquote]
    exact List.append_nil s
  unfold readText
  rw [hdrop, htake]

/-! ## Values -/

/-- The characters of an integer, of a truth value and of a number go on up to the end of the
value, and none of them is a quote. -/
theorem continues_of_written {l : Literal} (hl : l.Plain) (htext : ∀ s, l ≠ .text s) :
    ∀ c ∈ l.written, continues c = true ∧ c ≠ '"' := by
  have hdigit {c : Char} (h : c.isDigit = true) : continues c = true ∧ c ≠ '"' := by
    have hne {c' : Char} (hc' : c'.isDigit = false) : c ≠ c' := by
      rintro rfl
      exact absurd h (Bool.eq_false_iff.mp hc')
    refine ⟨?_, hne (by decide)⟩
    rw [continues, Bool.and_eq_true, bne_iff_ne, bne_iff_ne]
    exact ⟨hne (by decide), hne (by decide)⟩
  cases l with
  | text s => exact absurd rfl (htext s)
  | boolean b =>
    have hall : (Literal.boolean b).written.all
        (fun c => decide (continues c = true ∧ c ≠ '"')) = true := by cases b <;> rfl
    exact fun c hc => of_decide_eq_true (List.all_eq_true.mp hall c hc)
  | integer n =>
    intro c hc
    rcases mem_integerText hc with hc | rfl
    · exact hdigit hc
    · decide
  | number t =>
    intro c hc
    have hnumber := hl c hc
    simp only [ofNumber, Bool.or_eq_true, beq_iff_eq] at hnumber
    rcases hnumber with (((((((hc | rfl) | rfl) | rfl) | rfl) | rfl) | rfl) | rfl) | rfl
    · exact hdigit hc
    all_goals decide

theorem readToken_integerText (n : ℤ) : readToken (integerText n) = some (.integer n) := by
  have hne {c : Char} {t : List Char} (hdigit : c.isDigit = false) (hsign : c ≠ '-') :
      integerText n ≠ c :: t := by
    intro h
    have hmem : c ∈ integerText n := h ▸ List.mem_cons_self
    rcases mem_integerText hmem with hc | hc
    · exact absurd hc (Bool.eq_false_iff.mp hdigit)
    · exact hsign hc
  rw [readToken, if_neg (hne (by decide) (by decide)), if_neg (hne (by decide) (by decide)),
    readNumber_integerText]

theorem readValue_quote (cs : List Char) :
    readValue ('"' :: cs) = (readText cs).map fun (s, rest) => (.text s, rest) := if_pos rfl

/-- A value that is not a text is read up to the character that ends it. -/
theorem readValue_token {w : List Char} (hw : ∀ c ∈ w, continues c = true ∧ c ≠ '"') {c : Char}
    (hc : continues c = false) (rest : List Char) :
    readValue (w ++ c :: rest) = (readToken w).map (·, c :: rest) := by
  have hcontinues : ∀ c ∈ w, continues c = true := fun c hmem => (hw c hmem).1
  have hend : ¬ continues c = true := Bool.eq_false_iff.mp hc
  have hhead : ¬ (w ++ c :: rest).head? = some '"' := by
    cases w with
    | nil =>
      intro h
      obtain rfl : c = '"' := Option.some.inj h
      exact absurd hc (by decide)
    | cons c' w =>
      intro h
      exact (hw c' List.mem_cons_self).2 (Option.some.inj h)
  rw [readValue, if_neg hhead, List.takeWhile_append_of_pos hcontinues,
    List.dropWhile_append_of_pos hcontinues, List.takeWhile_cons_of_neg hend,
    List.dropWhile_cons_of_neg hend, List.append_nil]

theorem value_integer {n : ℤ} {value : Value} (h : (Literal.integer n).value? = some value) :
    value = .integer n := by
  simp only [Literal.value?, Option.ite_none_right_eq_some, Option.some_inj] at h
  exact h.2.symm

/-- A value that is read is the one that was written. -/
theorem readValue_written {l : Literal} (hl : l.Plain) {c : Char} {rest : List Char}
    (hc : continues c = false) {v : Value} {rest' : List Char}
    (h : readValue (l.written ++ c :: rest) = some (v, rest')) :
    rest' = c :: rest ∧ ∀ value, l.value? = some value → v = value := by
  have htoken {w : List Char} (hw : ∀ c ∈ w, continues c = true ∧ c ≠ '"')
      (h : readValue (w ++ c :: rest) = some (v, rest')) :
      readToken w = some v ∧ rest' = c :: rest := by
    rw [readValue_token hw hc] at h
    obtain ⟨v', hv', hpair⟩ := Option.map_eq_some_iff.mp h
    obtain ⟨rfl, rfl⟩ := Prod.mk.inj hpair
    exact ⟨hv', rfl⟩
  cases l with
  | text s =>
    have happend : (Literal.text s).written ++ c :: rest = '"' :: (s ++ '"' :: c :: rest) := by
      simp [Literal.written]
    rw [happend, readValue_quote, readText_append hl] at h
    obtain ⟨rfl, rfl⟩ := Prod.mk.inj (Option.some.inj h)
    exact ⟨rfl, fun value hvalue => Option.some.inj hvalue⟩
  | boolean b =>
    obtain ⟨hread, hrest⟩ := htoken (continues_of_written hl fun s hs => Literal.noConfusion hs) h
    refine ⟨hrest, fun value hvalue => ?_⟩
    cases b <;> exact Option.some.inj (hread.symm.trans hvalue)
  | integer n =>
    obtain ⟨hread, hrest⟩ := htoken (continues_of_written hl fun s hs => Literal.noConfusion hs) h
    refine ⟨hrest, fun value hvalue => ?_⟩
    rw [value_integer hvalue]
    exact Option.some.inj (hread.symm.trans (readToken_integerText n))
  | number t =>
    obtain ⟨-, hrest⟩ := htoken (continues_of_written hl fun s hs => Literal.noConfusion hs) h
    exact ⟨hrest, fun value hvalue => absurd hvalue.symm (Option.some_ne_none value)⟩

/-! ## Objects -/

/-- A value that a reader has found is the one that a member was written with. -/
def Matches (m : Member) (v : List Char × Value) : Prop :=
  v.1 = m.1 ∧ ∀ value, m.2.value? = some value → v.2 = value

theorem memberText_append_ne (m : Member) (c : Char) (rest : List Char) :
    memberText m ++ c :: rest ≠ ['}'] := by
  intro h
  exact absurd (List.cons.inj h).1 (by decide)

theorem readMember_memberText {m : Member} (hkey : ∀ c ∈ m.1, plain c = true) (hl : m.2.Plain)
    {c : Char} {rest : List Char} (hc : continues c = false) {v : List Char × Value}
    {rest' : List Char} (h : readMember (memberText m ++ c :: rest) = some (v, rest')) :
    rest' = c :: rest ∧ Matches m v := by
  have happend : memberText m ++ c :: rest =
      '"' :: (m.1 ++ '"' :: (':' :: (m.2.written ++ c :: rest))) := by
    simp [memberText]
  rw [happend, readMember, readText_append hkey] at h
  obtain ⟨⟨value, rest''⟩, hvalue, hpair⟩ := Option.map_eq_some_iff.mp h
  obtain ⟨rfl, rfl⟩ := Prod.mk.inj hpair
  obtain ⟨hrest, hread⟩ := readValue_written hl hc hvalue
  exact ⟨hrest, rfl, hread⟩

/-- The members that are read are those that were written. -/
theorem readMembers_membersText {members : List Member}
    (hkeys : ∀ m ∈ members, ∀ c ∈ m.1, plain c = true) (hliterals : ∀ m ∈ members, m.2.Plain)
    {fuel : ℕ} {values : List (List Char × Value)}
    (h : readMembers fuel (membersText members) = some values) :
    List.Forall₂ Matches members values := by
  induction members using membersText.induct generalizing fuel values with
  | case1 =>
    cases fuel with
    | zero => exact absurd h.symm (Option.some_ne_none values)
    | succ fuel =>
      obtain rfl : [] = values := Option.some.inj h
      exact .nil
  | case2 m =>
    cases fuel with
    | zero => exact absurd h.symm (Option.some_ne_none values)
    | succ fuel =>
      rw [membersText, readMembers, if_neg (memberText_append_ne m _ _)] at h
      obtain ⟨⟨v, rest⟩, hread, hnext⟩ := Option.bind_eq_some_iff.mp h
      obtain ⟨rfl, hmatches⟩ := readMember_memberText (hkeys m List.mem_cons_self)
        (hliterals m List.mem_cons_self) (by decide) hread
      obtain rfl : [v] = values := Option.some.inj hnext
      exact .cons hmatches .nil
  | case3 m m' members ih =>
    cases fuel with
    | zero => exact absurd h.symm (Option.some_ne_none values)
    | succ fuel =>
      rw [membersText, readMembers, if_neg (memberText_append_ne m _ _)] at h
      obtain ⟨⟨v, rest⟩, hread, hnext⟩ := Option.bind_eq_some_iff.mp h
      obtain ⟨rfl, hmatches⟩ := readMember_memberText (hkeys m List.mem_cons_self)
        (hliterals m List.mem_cons_self) (by decide) hread
      obtain ⟨values', hlater, rfl⟩ := Option.map_eq_some_iff.mp hnext
      exact .cons hmatches (ih (fun a ha => hkeys a (List.mem_cons_of_mem _ ha))
        (fun a ha => hliterals a (List.mem_cons_of_mem _ ha)) hlater)

/-- The values that are read have the keys that were written. -/
theorem Matches.keys {members : List Member} {values : List (List Char × Value)}
    (h : List.Forall₂ Matches members values) : values.map Prod.fst = members.map Prod.fst := by
  induction h with
  | nil => rfl
  | cons hmatches _ ih => rw [List.map_cons, List.map_cons, hmatches.1, ih]

theorem mem_of_matches {members : List Member} {values : List (List Char × Value)}
    (h : List.Forall₂ Matches members values) {m : Member} (hm : m ∈ members) {value : Value}
    (hvalue : m.2.value? = some value) : (m.1, value) ∈ values := by
  induction h with
  | nil => exact absurd hm List.not_mem_nil
  | @cons a v members values hmatches _ ih =>
    rcases List.mem_cons.mp hm with rfl | hm
    · obtain rfl : (m.1, value) = v := Prod.ext hmatches.1.symm (hmatches.2 value hvalue).symm
      exact List.mem_cons_self
    · exact List.mem_cons_of_mem _ (ih hm)

/-- The reader of flat objects finds every member. -/
theorem faithful_read : Faithful read := by
  intro members document hplain h
  rw [objectText, read] at h
  cases hvalues : readMembers (membersText members).length (membersText members) with
  | none =>
    rw [hvalues] at h
    cases h
  | some values =>
    rw [hvalues] at h
    cases h
    have hmatches := readMembers_membersText hplain.keys hplain.literals hvalues
    refine ⟨values, rfl, fun m hm value hvalue => ?_⟩
    have hnodup : (values.map Prod.fst).Nodup := by
      rw [Matches.keys hmatches]
      exact hplain.nodup
    have hfirst := KeyedEntries.first_eq_some Prod.fst (mem_of_matches hmatches hm hvalue)
      ((@List.nodup_iff_count_le_one _ instBEqOfDecidableEq _ _).mp hnodup _)
    rw [find, hfirst]
    rfl

end FlatJson
