import JointController.Library.FieldText
import Mathlib.Data.Int.Notation
import Mathlib.Data.Nat.Notation
import Mathlib.Tactic.Common
import Mathlib.Tactic.IntervalCases

/-!
# The stored zero offset

`zero_offset_store.cpp` writes the zero offset of a drive into a text file and reads it back for
the drive with the same identity.

* `ZeroOffsetRecord`, `render`: a record and the text that is written for it.
* `parseUnsigned`, `parseSigned`: the numbers that the reader takes.
* `readLine`, `readFields`, `load`: the reader.
* `saveAtomic`: the writer, on a file system.
* `Clean`: the identities that a file keeps.
* `save_load_iff`: a saved record comes back, and for its own identity only, exactly if its motor
  identity is clean.
-/

namespace JointController

namespace Hardware

namespace ZeroOffset

/-- The characters of a `std::string`. -/
abbrev Text := List Char

/-! ## Records -/

/-- `ZeroOffsetRecord`. -/
structure ZeroOffsetRecord where
  schema : UInt32 := 1
  motorId : Text := []
  slaveAlias : UInt16 := 0
  slavePosition : UInt16 := 0
  zeroOffsetUnits : Int32 := 0
  deriving DecidableEq

/-- `ZeroOffsetLoadResult`. -/
inductive ZeroOffsetLoadResult where
  | missing | loaded | invalid
  deriving DecidableEq

/-! ## Numbers -/

/-- `std::isspace`. -/
def isSpace (c : Char) : Bool :=
  c = ' ' ∨ c = '\t' ∨ c = '\n' ∨ c = '\x0b' ∨ c = '\x0c' ∨ c = '\r'

/-- The value of a digit or a letter. -/
def digitValue (c : Char) : Option ℕ :=
  if '0' ≤ c ∧ c ≤ '9' then some (c.toNat - '0'.toNat)
  else if 'a' ≤ c ∧ c ≤ 'z' then some (c.toNat - 'a'.toNat + 10)
  else if 'A' ≤ c ∧ c ≤ 'Z' then some (c.toNat - 'A'.toNat + 10)
  else none

/-- A digit of a base behind a number. -/
def addDigit (base n : ℕ) (c : Char) : Option ℕ :=
  ((digitValue c).filter (· < base)).map (base * n + ·)

/-- The number that all the digits spell. -/
def parseDigits (base : ℕ) (digits : Text) : Option ℕ :=
  if digits = [] then none else digits.foldlM (addDigit base) 0

/-- A number in base 16 behind `0x`, in base 8 behind `0`, and in base 10 else. -/
def parseMagnitude : Text → Option ℕ
  | [] => none
  | first :: rest =>
    if first ≠ '0' then parseDigits 10 (first :: rest)
    else
      match rest with
      | [] => some 0
      | mark :: digits =>
        if mark = 'x' ∨ mark = 'X' then parseDigits 16 digits else parseDigits 8 rest

/-- A number behind spaces and a sign, which must take the whole text. -/
def parseNumber (text : Text) : Option (Bool × ℕ) :=
  let text := text.dropWhile isSpace
  if text.head? = some '-' then (parseMagnitude text.tail).map (true, ·)
  else if text.head? = some '+' then (parseMagnitude text.tail).map (false, ·)
  else (parseMagnitude text).map (false, ·)

/-- `parse_unsigned`: `std::stoull` in base 0.  A negative number is taken modulo `2 ^ 64`. -/
def parseUnsigned (text : Text) : Option ℕ :=
  (parseNumber text).bind fun (negative, magnitude) =>
    if 2 ^ 64 ≤ magnitude then none
    else some (if negative then (2 ^ 64 - magnitude) % 2 ^ 64 else magnitude)

/-- `parse_signed`: `std::stoll` in base 0. -/
def parseSigned (text : Text) : Option ℤ :=
  (parseNumber text).bind fun (negative, magnitude) =>
    if negative then (if 2 ^ 63 < magnitude then none else some (-magnitude))
    else if 2 ^ 63 ≤ magnitude then none else some magnitude

/-! ## The reader -/

/-- The characters that `trim` takes away. -/
def isBlank (c : Char) : Bool := c = ' ' ∨ c = '\t' ∨ c = '\r' ∨ c = '\n'

/-- `trim`. -/
def trim (value : Text) : Text := FieldText.trim isBlank value

/-- The fields of a file. -/
abbrev Fields := List (Text × Text)

/-- One round of the loop over the lines. -/
def readLine (values : Fields) (line : Text) : Except String Fields :=
  let line := trim (FieldText.before '#' line)
  if line = [] then .ok values
  else if '=' ∉ line then .error "zero offset file contains a line without '='"
  else
    let key := trim (FieldText.before '=' line)
    let value := trim (FieldText.behind '=' line)
    if key = [] ∨ value = [] ∨ key ∈ values.map Prod.fst then
      .error "zero offset file contains an empty or duplicate field"
    else .ok ((key, value) :: values)

/-- The fields of a text. -/
def readFields (text : Text) : Except String Fields :=
  (FieldText.lines '\n' text).foldlM readLine []

/-- The fields that a file must have. -/
def required : List String :=
  ["schema", "motor_id", "slave_alias", "slave_position", "zero_offset_units"]

/-- The value of a field. -/
def valueOf (values : Fields) (key : String) : Text := (values.lookup key.toList).getD []

/-- The numeric fields. -/
structure Numbers where
  slaveAlias : UInt16
  slavePosition : UInt16
  zeroOffsetUnits : Int32

/-- The check of the numeric fields: schema 1, 16-bit numbers and a 32-bit offset. -/
def readNumbers (values : Fields) : Option Numbers := do
  let schema ← parseUnsigned (valueOf values "schema")
  if schema ≠ 1 then none
  let slaveAlias ← parseUnsigned (valueOf values "slave_alias")
  if 2 ^ 16 ≤ slaveAlias then none
  let slavePosition ← parseUnsigned (valueOf values "slave_position")
  if 2 ^ 16 ≤ slavePosition then none
  let offset ← parseSigned (valueOf values "zero_offset_units")
  if offset < -2 ^ 31 ∨ 2 ^ 31 - 1 < offset then none
  some ⟨.ofNat slaveAlias, .ofNat slavePosition, .ofInt offset⟩

/-- The checks behind the loop, for an expected identity. -/
def readRecord (values : Fields) (motorId : Text) (slaveAlias slavePosition : UInt16) :
    Except String ZeroOffsetRecord :=
  match required.find? fun key => (values.lookup key.toList).isNone with
  | some key => .error ("zero offset file is missing field: " ++ key)
  | none =>
    match readNumbers values with
    | none => .error "zero offset file contains an invalid numeric field"
    | some numbers =>
      if valueOf values "motor_id" ≠ motorId ∨ numbers.slaveAlias ≠ slaveAlias ∨
          numbers.slavePosition ≠ slavePosition then
        .error "zero offset identity does not match configured motor/slave"
      else .ok
        { schema := 1
          motorId := valueOf values "motor_id"
          slaveAlias := numbers.slaveAlias
          slavePosition := numbers.slavePosition
          zeroOffsetUnits := numbers.zeroOffsetUnits }

/-- What the reader finds at its path. -/
inductive FileLookup where
  | failed (message : String)
  | absent
  | closed
  | text (content : Text)

/-- `load`: the result, the record and the error. -/
def load (file : FileLookup) (path : String) (motorId : Text) (slaveAlias slavePosition : UInt16)
    (record : ZeroOffsetRecord) (error : String) :
    ZeroOffsetLoadResult × ZeroOffsetRecord × String :=
  match file with
  | .failed message => (.invalid, record, "cannot inspect zero offset file: " ++ message)
  | .absent => (.missing, record, error)
  | .closed => (.invalid, record, "cannot open zero offset file: " ++ path)
  | .text content =>
    match readFields content with
    | .error reason => (.invalid, record, reason)
    | .ok values =>
      match readRecord values motorId slaveAlias slavePosition with
      | .error reason => (.invalid, record, reason)
      | .ok found => (.loaded, found, error)

/-! ## The writer -/

/-- A number in base 10. -/
def decimal (n : ℕ) : Text := Nat.toDigits 10 n

/-- A signed number in base 10. -/
def signedDecimal (z : ℤ) : Text := if z < 0 then '-' :: decimal z.natAbs else decimal z.natAbs

/-- A line with a field. -/
def field (key : String) (value : Text) : Text := key.toList ++ '=' :: value

/-- The text of a record. -/
def render (record : ZeroOffsetRecord) : Text :=
  field "schema" ['1'] ++ '\n' ::
  (field "motor_id" record.motorId ++ '\n' ::
  (field "slave_alias" (decimal record.slaveAlias.toNat) ++ '\n' ::
  (field "slave_position" (decimal record.slavePosition.toNat) ++ '\n' ::
  (field "zero_offset_units" (signedDecimal record.zeroOffsetUnits.toInt) ++ ['\n']))))

/-- The text of every file. -/
abbrev FileSystem := String → Option Text

/-- What a reader finds at a path when nothing fails. -/
def FileSystem.lookup (fs : FileSystem) (path : String) : FileLookup :=
  match fs path with
  | none => .absent
  | some content => .text content

/-- What the calls of a save answer: the failures, and what a failed write leaves behind. -/
structure SaveOutcomes where
  directoryError : Option String
  opens : Bool
  writes : Bool
  written : Text
  renameError : Option String
  removes : Bool

/-- `save_atomic`: whether the record is saved, the error and the files. -/
def saveAtomic (fs : FileSystem) (outcomes : SaveOutcomes) (path : String)
    (record : ZeroOffsetRecord) (error : String) : Bool × String × FileSystem :=
  let temporary := path ++ ".tmp"
  if path = "" ∨ record.schema ≠ 1 ∨ record.motorId = [] then
    (false, "zero offset path, schema or motor_id is invalid", fs)
  else
    match outcomes.directoryError with
    | some message => (false, "cannot create zero offset directory: " ++ message, fs)
    | none =>
      if ¬ outcomes.opens then (false, "cannot open temporary zero offset file", fs)
      else if ¬ outcomes.writes then
        (false, "cannot write temporary zero offset file",
          Function.update fs temporary (some outcomes.written))
      else
        match outcomes.renameError with
        | some message =>
          (false, "cannot atomically replace zero offset file: " ++ message,
            Function.update fs temporary
              (if outcomes.removes then none else some (render record)))
        | none =>
          (true, error,
            Function.update (Function.update fs temporary none) path (some (render record)))

/-! ## Decimal numbers -/

theorem isDigit_of_mem_decimal {n : ℕ} {c : Char} (h : c ∈ decimal n) : c.isDigit = true :=
  Nat.isDigit_of_mem_toDigits (by decide) (by decide) h

theorem decimal_ne_nil (n : ℕ) : decimal n ≠ [] := Nat.toDigits_ne_nil

/-- Only the digits of zero begin with a zero. -/
theorem head_decimal_ne_zero {n : ℕ} (hn : 0 < n) : (decimal n).head? ≠ some '0' := by
  induction n using Nat.strong_induction_on with
  | _ n ih =>
    by_cases hlt : n < 10
    · rw [decimal, Nat.toDigits_of_lt_base hlt]
      interval_cases n <;> decide
    · have hstep : decimal n = decimal (n / 10) ++ [Nat.digitChar (n % 10)] :=
        Nat.toDigits_of_base_le (by decide) (by omega)
      rw [hstep, List.head?_append_of_ne_nil _ (decimal_ne_nil _)]
      exact ih (n / 10) (by omega) (by omega)

/-- A digit adds its value. -/
theorem addDigit_of_isDigit {c : Char} (h : c.isDigit = true) (n : ℕ) :
    addDigit 10 n c = some (10 * n + (c.toNat - '0'.toNat)) := by
  have hrange : '0'.val ≤ c.val ∧ c.val ≤ '9'.val := by
    simpa [Char.isDigit] using h
  obtain ⟨hlow, hhigh⟩ : '0' ≤ c ∧ c ≤ '9' := hrange
  have hlt : c.toNat - '0'.toNat < 10 := by
    have hle : c.toNat ≤ '9'.toNat := hhigh
    have hnine : '9'.toNat = '0'.toNat + 9 := by decide
    omega
  rw [addDigit, digitValue, if_pos ⟨hlow, hhigh⟩, Option.filter_some, if_pos (decide_eq_true hlt),
    Option.map_some]

theorem foldlM_addDigit {digits : Text} (h : ∀ c ∈ digits, c.isDigit = true) (n : ℕ) :
    digits.foldlM (addDigit 10) n = some (Nat.ofDigitChars 10 digits n) := by
  induction digits generalizing n with
  | nil => rw [Nat.ofDigitChars_nil]; rfl
  | cons c digits ih =>
    obtain ⟨hc, hdigits⟩ := List.forall_mem_cons.mp h
    rw [List.foldlM_cons, addDigit_of_isDigit hc, Nat.ofDigitChars_cons]
    exact ih hdigits _

/-- The digits of a number spell it. -/
theorem parseDigits_decimal (n : ℕ) : parseDigits 10 (decimal n) = some n := by
  rw [parseDigits, if_neg (decimal_ne_nil n), foldlM_addDigit fun c => isDigit_of_mem_decimal,
    decimal, Nat.ofDigitChars_ten_toDigits]

theorem parseMagnitude_decimal (n : ℕ) : parseMagnitude (decimal n) = some n := by
  have hparse := parseDigits_decimal n
  obtain rfl | hn := Nat.eq_zero_or_pos n
  · rfl
  · have hhead := head_decimal_ne_zero hn
    cases hdigits : decimal n with
    | nil => exact absurd hdigits (decimal_ne_nil n)
    | cons first rest =>
      rw [hdigits] at hhead hparse
      have hfirst : first ≠ '0' := fun h => hhead (h ▸ rfl)
      exact (if_pos hfirst).trans hparse

/-- The characters of a number are neither blank nor special. -/
theorem plain_of_isDigit {c : Char} (h : c.isDigit = true) :
    isSpace c = false ∧ isBlank c = false ∧ c ≠ '#' ∧ c ≠ '\n' ∧ c ≠ '-' ∧ c ≠ '+' := by
  have hne (d : Char) (hd : d.isDigit = false) : c ≠ d := by
    rintro rfl
    rw [hd] at h
    exact Bool.false_ne_true h
  refine ⟨?_, ?_, hne _ (by decide), hne _ (by decide), hne _ (by decide), hne _ (by decide)⟩
  · simp [isSpace, hne ' ' (by decide), hne '\t' (by decide), hne '\n' (by decide),
      hne '\x0b' (by decide), hne '\x0c' (by decide), hne '\r' (by decide)]
  · simp [isBlank, hne ' ' (by decide), hne '\t' (by decide), hne '\n' (by decide),
      hne '\r' (by decide)]

theorem parseNumber_decimal (n : ℕ) : parseNumber (decimal n) = some (false, n) := by
  have hparse := parseMagnitude_decimal n
  unfold parseNumber
  cases hdigits : decimal n with
  | nil => exact absurd hdigits (decimal_ne_nil n)
  | cons first rest =>
    have hfirst : first ∈ decimal n := by
      rw [hdigits]
      exact List.mem_cons_self
    obtain ⟨hspace, -, -, -, hminus, hplus⟩ := plain_of_isDigit (isDigit_of_mem_decimal hfirst)
    have hdrop : (first :: rest).dropWhile isSpace = first :: rest :=
      List.dropWhile_cons_of_neg (by rw [hspace]; exact Bool.false_ne_true)
    rw [hdigits] at hparse
    simp only [hdrop, List.head?_cons, Option.some.injEq, if_neg hminus, if_neg hplus, hparse,
      Option.map_some]

theorem parseNumber_negative (n : ℕ) : parseNumber ('-' :: decimal n) = some (true, n) := by
  have hdrop : ('-' :: decimal n).dropWhile isSpace = '-' :: decimal n :=
    List.dropWhile_cons_of_neg (by decide)
  unfold parseNumber
  simp only [hdrop, List.head?_cons, if_true, List.tail_cons, parseMagnitude_decimal,
    Option.map_some]

/-- An unsigned number is read back. -/
theorem parseUnsigned_decimal {n : ℕ} (h : n < 2 ^ 64) : parseUnsigned (decimal n) = some n := by
  rw [parseUnsigned, parseNumber_decimal, Option.bind_some]
  exact if_neg (not_le.mpr h)

/-- A signed number is read back. -/
theorem parseSigned_signedDecimal {z : ℤ} (hlow : -2 ^ 63 ≤ z) (hhigh : z < 2 ^ 63) :
    parseSigned (signedDecimal z) = some z := by
  unfold signedDecimal parseSigned
  by_cases hz : z < 0
  · have hmagnitude : ¬ 2 ^ 63 < z.natAbs := by omega
    rw [if_pos hz, parseNumber_negative, Option.bind_some]
    simp only [if_true, if_neg hmagnitude, Option.some.injEq]
    omega
  · have hmagnitude : ¬ 2 ^ 63 ≤ z.natAbs := by omega
    rw [if_neg hz, parseNumber_decimal, Option.bind_some]
    simp only [Bool.false_eq_true, if_false, if_neg hmagnitude, Option.some.injEq]
    omega

/-! ## Clean fields -/

/-- A text that the reader takes as it is: without blanks at its ends, comments and newlines. -/
structure Clean (text : Text) : Prop where
  trimmed : trim text = text
  noComment : '#' ∉ text
  noNewline : '\n' ∉ text

theorem clean_nil : Clean [] := ⟨rfl, List.not_mem_nil, List.not_mem_nil⟩

/-- A text of plain characters is clean. -/
theorem clean_of_plain {text : Text}
    (h : ∀ c ∈ text, isBlank c = false ∧ c ≠ '#' ∧ c ≠ '\n') : Clean text where
  trimmed := (FieldText.trim_eq_self_iff isBlank).mpr
    ⟨fun c hc => (h c (List.mem_of_mem_head? hc)).1,
      fun c hc => (h c (List.mem_of_mem_getLast? hc)).1⟩
  noComment hmem := (h _ hmem).2.1 rfl
  noNewline hmem := (h _ hmem).2.2 rfl

theorem clean_decimal (n : ℕ) : Clean (decimal n) := by
  refine clean_of_plain fun c hc => ?_
  obtain ⟨-, hblank, hcomment, hnewline, -⟩ := plain_of_isDigit (isDigit_of_mem_decimal hc)
  exact ⟨hblank, hcomment, hnewline⟩

theorem clean_signedDecimal (z : ℤ) : Clean (signedDecimal z) := by
  refine clean_of_plain fun c hc => ?_
  have hdigit (hc : c ∈ decimal z.natAbs) : isBlank c = false ∧ c ≠ '#' ∧ c ≠ '\n' := by
    obtain ⟨-, hblank, hcomment, hnewline, -⟩ := plain_of_isDigit (isDigit_of_mem_decimal hc)
    exact ⟨hblank, hcomment, hnewline⟩
  unfold signedDecimal at hc
  split_ifs at hc
  · obtain rfl | hc := List.mem_cons.mp hc
    · decide
    · exact hdigit hc
  · exact hdigit hc

theorem signedDecimal_ne_nil (z : ℤ) : signedDecimal z ≠ [] := by
  unfold signedDecimal
  split_ifs
  · exact List.cons_ne_nil _ _
  · exact decimal_ne_nil _

/-- The name of a field: clean, not empty and without a separator. -/
structure Key (key : String) : Prop where
  clean : Clean key.toList
  nonempty : key.toList ≠ []
  noSeparator : '=' ∉ key.toList

theorem key_of_mem_required {key : String} (h : key ∈ required) : Key key := by
  have hall : ∀ key ∈ required, trim key.toList = key.toList ∧ '#' ∉ key.toList ∧
      '\n' ∉ key.toList ∧ key.toList ≠ [] ∧ '=' ∉ key.toList := by decide
  obtain ⟨htrim, hcomment, hnewline, hne, hseparator⟩ := hall key h
  exact ⟨⟨htrim, hcomment, hnewline⟩, hne, hseparator⟩

variable {key : String} {value : Text}

/-- A line of a clean field is taken as it is. -/
theorem clean_field (hkey : Key key) (hvalue : Clean value) (hne : value ≠ []) :
    Clean (field key value) where
  trimmed := by
    have hkeyTrimmed := (FieldText.trim_eq_self_iff isBlank).mp hkey.clean.trimmed
    have hvalueTrimmed := (FieldText.trim_eq_self_iff isBlank).mp hvalue.trimmed
    refine (FieldText.trim_eq_self_iff isBlank).mpr ⟨fun c hc => ?_, fun c hc => ?_⟩
    · rw [field, List.head?_append_of_ne_nil _ hkey.nonempty] at hc
      exact hkeyTrimmed.1 c hc
    · have hlast : (field key value).getLast? = value.getLast? := by
        rw [field, List.append_cons]
        exact List.getLast?_append_of_ne_nil _ hne
      rw [hlast] at hc
      exact hvalueTrimmed.2 c hc
  noComment hmem := by
    obtain h | h := List.mem_append.mp hmem
    · exact hkey.clean.noComment h
    · obtain h | h := List.mem_cons.mp h
      · exact absurd h (by decide)
      · exact hvalue.noComment h
  noNewline hmem := by
    obtain h | h := List.mem_append.mp hmem
    · exact hkey.clean.noNewline h
    · obtain h | h := List.mem_cons.mp h
      · exact absurd h (by decide)
      · exact hvalue.noNewline h

/-- The reader takes a clean field. -/
theorem readLine_field (hkey : Key key) (hvalue : Clean value) (hne : value ≠ [])
    {values : Fields} (hnew : key.toList ∉ values.map Prod.fst) :
    readLine values (field key value) = .ok ((key.toList, value) :: values) := by
  have hfield := clean_field hkey hvalue hne
  have hline : trim (FieldText.before '#' (field key value)) = field key value := by
    rw [FieldText.before_eq_self hfield.noComment, hfield.trimmed]
  have hlineNe : field key value ≠ [] := List.append_ne_nil_of_left_ne_nil hkey.nonempty _
  have hseparator : '=' ∈ field key value := List.mem_append_right _ List.mem_cons_self
  have hbefore : trim (FieldText.before '=' (field key value)) = key.toList := by
    rw [field, FieldText.before_append hkey.noSeparator, hkey.clean.trimmed]
  have hbehind : trim (FieldText.behind '=' (field key value)) = value := by
    rw [field, FieldText.behind_append hkey.noSeparator, hvalue.trimmed]
  unfold readLine
  simp only [hline, hbefore, hbehind]
  rw [if_neg hlineNe, if_neg (not_not_intro hseparator),
    if_neg (not_or.mpr ⟨hkey.nonempty, not_or.mpr ⟨hne, hnew⟩⟩)]

/-- Every value that the reader takes is clean. -/
theorem readLine_clean {values values' : Fields} {line : Text} (hline : '\n' ∉ line)
    (h : readLine values line = .ok values') (hclean : ∀ p ∈ values, Clean p.2) :
    ∀ p ∈ values', Clean p.2 := by
  unfold readLine at h
  simp only at h
  split_ifs at h
  · obtain rfl := Except.ok.inj h
    exact hclean
  · obtain rfl := Except.ok.inj h
    have hsource {c : Char} (hc : c ∈ trim (FieldText.behind '='
        (trim (FieldText.before '#' line)))) : c ∈ FieldText.before '#' line :=
      FieldText.mem_of_mem_trim isBlank (FieldText.mem_of_mem_behind
        (FieldText.mem_of_mem_trim isBlank hc))
    refine List.forall_mem_cons.mpr ⟨⟨FieldText.trim_trim isBlank _, fun hmem => ?_,
      fun hmem => ?_⟩, hclean⟩
    · exact FieldText.notMem_before line (hsource hmem)
    · exact hline (FieldText.mem_of_mem_before (hsource hmem))

theorem foldlM_readLine_clean {lines : List Text} (hlines : ∀ line ∈ lines, '\n' ∉ line) :
    ∀ {values values' : Fields}, lines.foldlM readLine values = .ok values' →
      (∀ p ∈ values, Clean p.2) → ∀ p ∈ values', Clean p.2 := by
  induction lines with
  | nil =>
    intro values values' h hclean
    obtain rfl := Except.ok.inj h
    exact hclean
  | cons line lines ih =>
    intro values values' h hclean
    obtain ⟨hline, hrest⟩ := List.forall_mem_cons.mp hlines
    rw [List.foldlM_cons] at h
    cases hstep : readLine values line with
    | error reason =>
      rw [hstep] at h
      cases h
    | ok next =>
      rw [hstep] at h
      exact ih hrest h (readLine_clean hline hstep hclean)

/-- Every value of a file is clean. -/
theorem clean_valueOf {text : Text} {values : Fields} (h : readFields text = .ok values)
    (key : String) : Clean (valueOf values key) := by
  have hclean := foldlM_readLine_clean
    (fun line hline => FieldText.notMem_of_mem_lines '\n' hline) h
    (fun p hp => absurd hp List.not_mem_nil)
  unfold valueOf
  cases hlookup : values.lookup key.toList with
  | none => exact clean_nil
  | some value =>
    obtain ⟨front, rest, rfl, -⟩ := List.lookup_eq_some_iff.mp hlookup
    exact hclean (key.toList, value) (List.mem_append_right _ List.mem_cons_self)

/-! ## Reading a written record -/

/-- The fields of a record, the last one first. -/
def recordFields (record : ZeroOffsetRecord) : Fields :=
  [("zero_offset_units".toList, signedDecimal record.zeroOffsetUnits.toInt),
    ("slave_position".toList, decimal record.slavePosition.toNat),
    ("slave_alias".toList, decimal record.slaveAlias.toNat),
    ("motor_id".toList, record.motorId), ("schema".toList, ['1'])]

variable {record : ZeroOffsetRecord}

theorem lines_render (hclean : Clean record.motorId) (hne : record.motorId ≠ []) :
    FieldText.lines '\n' (render record) =
      [field "schema" ['1'], field "motor_id" record.motorId,
        field "slave_alias" (decimal record.slaveAlias.toNat),
        field "slave_position" (decimal record.slavePosition.toNat),
        field "zero_offset_units" (signedDecimal record.zeroOffsetUnits.toInt)] := by
  have hline (key : String) (hkey : key ∈ required) {value : Text} (hvalue : Clean value)
      (hvalueNe : value ≠ []) : '\n' ∉ field key value :=
    (clean_field (key_of_mem_required hkey) hvalue hvalueNe).noNewline
  have hone : Clean ['1'] := clean_of_plain (List.forall_mem_singleton.mpr (by decide))
  unfold render
  rw [FieldText.lines_line '\n' (hline "schema" (by decide) hone (by decide)),
    FieldText.lines_line '\n' (hline "motor_id" (by decide) hclean hne),
    FieldText.lines_line '\n'
      (hline "slave_alias" (by decide) (clean_decimal _) (decimal_ne_nil _)),
    FieldText.lines_line '\n'
      (hline "slave_position" (by decide) (clean_decimal _) (decimal_ne_nil _)),
    FieldText.lines_line '\n'
      (hline "zero_offset_units" (by decide) (clean_signedDecimal _) (signedDecimal_ne_nil _)),
    FieldText.lines_nil]

/-- The fields of a written record with a clean identity are read back. -/
theorem readFields_render (hclean : Clean record.motorId) (hne : record.motorId ≠ []) :
    readFields (render record) = .ok (recordFields record) := by
  have hone : Clean ['1'] := clean_of_plain (List.forall_mem_singleton.mpr (by decide))
  have hkeys (key : String) (hkey : key ∈ required) := key_of_mem_required hkey
  rw [readFields, lines_render hclean hne, List.foldlM_cons,
    readLine_field (hkeys "schema" (by decide)) hone (by decide) (by decide)]
  show List.foldlM readLine _ _ = _
  rw [List.foldlM_cons,
    readLine_field (hkeys "motor_id" (by decide)) hclean hne (by simp)]
  show List.foldlM readLine _ _ = _
  rw [List.foldlM_cons,
    readLine_field (hkeys "slave_alias" (by decide)) (clean_decimal _) (decimal_ne_nil _) (by simp)]
  show List.foldlM readLine _ _ = _
  rw [List.foldlM_cons,
    readLine_field (hkeys "slave_position" (by decide)) (clean_decimal _) (decimal_ne_nil _)
      (by simp)]
  show List.foldlM readLine _ _ = _
  rw [List.foldlM_cons,
    readLine_field (hkeys "zero_offset_units" (by decide)) (clean_signedDecimal _)
      (signedDecimal_ne_nil _) (by simp)]
  rfl

/-- The numbers of a written record are read back. -/
theorem readNumbers_recordFields (record : ZeroOffsetRecord) :
    readNumbers (recordFields record) =
      some ⟨record.slaveAlias, record.slavePosition, record.zeroOffsetUnits⟩ := by
  have hschema : parseUnsigned (valueOf (recordFields record) "schema") = some 1 :=
    parseUnsigned_decimal (n := 1) (by decide)
  have halias : parseUnsigned (valueOf (recordFields record) "slave_alias") =
      some record.slaveAlias.toNat :=
    parseUnsigned_decimal (record.slaveAlias.toNat_lt.trans (by decide))
  have hposition : parseUnsigned (valueOf (recordFields record) "slave_position") =
      some record.slavePosition.toNat :=
    parseUnsigned_decimal (record.slavePosition.toNat_lt.trans (by decide))
  have hlow := record.zeroOffsetUnits.le_toInt
  have hhigh := record.zeroOffsetUnits.toInt_lt
  have hoffset : parseSigned (valueOf (recordFields record) "zero_offset_units") =
      some record.zeroOffsetUnits.toInt :=
    parseSigned_signedDecimal (by omega) (by omega)
  have haliasFits := record.slaveAlias.toNat_lt
  have hpositionFits := record.slavePosition.toNat_lt
  unfold readNumbers
  rw [hschema, halias, hposition, hoffset]
  simp only [Option.bind_eq_bind, Option.bind_some]
  rw [if_neg (not_not_intro rfl), if_neg (not_le.mpr haliasFits),
    if_neg (not_le.mpr hpositionFits), if_neg (by omega)]
  simp only [UInt16.ofNat_toNat, Int32.ofInt_toInt]

/-- **Reading a written record** with a clean identity: it comes back for its own identity, and any
other identity is refused. -/
theorem load_render (hschema : record.schema = 1) (hclean : Clean record.motorId)
    (hne : record.motorId ≠ []) (path : String) (motorId : Text)
    (slaveAlias slavePosition : UInt16) (before : ZeroOffsetRecord) (error : String) :
    load (.text (render record)) path motorId slaveAlias slavePosition before error =
      if (motorId, slaveAlias, slavePosition) =
          (record.motorId, record.slaveAlias, record.slavePosition) then (.loaded, record, error)
      else (.invalid, before, "zero offset identity does not match configured motor/slave") := by
  have hmissing : (required.find? fun key =>
      ((recordFields record).lookup key.toList).isNone) = none := rfl
  have hmotor : valueOf (recordFields record) "motor_id" = record.motorId := rfl
  have hidentity : (motorId, slaveAlias, slavePosition) =
      (record.motorId, record.slaveAlias, record.slavePosition) ↔
      ¬ (record.motorId ≠ motorId ∨ record.slaveAlias ≠ slaveAlias ∨
        record.slavePosition ≠ slavePosition) := by
    rw [Prod.mk.injEq, Prod.mk.injEq, not_or, not_or, not_not, not_not, not_not,
      eq_comm (a := motorId), eq_comm (a := slaveAlias), eq_comm (a := slavePosition)]
  simp only [load, readFields_render hclean hne, readRecord, hmissing,
    readNumbers_recordFields record, hmotor]
  by_cases hown : (motorId, slaveAlias, slavePosition) =
      (record.motorId, record.slaveAlias, record.slavePosition)
  · have hrecord : (⟨1, record.motorId, record.slaveAlias, record.slavePosition,
        record.zeroOffsetUnits⟩ : ZeroOffsetRecord) = record := by
      rw [← hschema]
    rw [if_neg (hidentity.mp hown), if_pos hown, hrecord]
  · rw [if_pos (not_not.mp (mt hidentity.mpr hown)), if_neg hown]

/-- A record that is loaded has a clean identity. -/
theorem clean_of_loaded {text : Text} {path : String} {motorId : Text}
    {slaveAlias slavePosition : UInt16} {before found : ZeroOffsetRecord} {error error' : String}
    (h : load (.text text) path motorId slaveAlias slavePosition before error =
      (.loaded, found, error')) : Clean found.motorId := by
  unfold load at h
  simp only at h
  cases hfields : readFields text with
  | error reason =>
    rw [hfields] at h
    cases h
  | ok values =>
    rw [hfields] at h
    cases hrecord : readRecord values motorId slaveAlias slavePosition with
    | error reason =>
      simp only [hrecord] at h
      cases h
    | ok record =>
      simp only [hrecord] at h
      obtain rfl : record = found := congrArg (fun r => r.2.1) h
      unfold readRecord at hrecord
      split at hrecord
      · cases hrecord
      · split at hrecord
        · cases hrecord
        · split_ifs at hrecord
          obtain rfl := Except.ok.inj hrecord
          exact clean_valueOf hfields "motor_id"

/-! ## Saving and loading -/

/-- A save that succeeds has checked the record and written its text. -/
theorem saveAtomic_eq_true {fs fs' : FileSystem} {outcomes : SaveOutcomes} {path : String}
    {error error' : String} (h : saveAtomic fs outcomes path record error = (true, error', fs')) :
    record.schema = 1 ∧ record.motorId ≠ [] ∧ fs'.lookup path = .text (render record) := by
  unfold saveAtomic at h
  simp only at h
  by_cases hinvalid : path = "" ∨ record.schema ≠ 1 ∨ record.motorId = []
  · rw [if_pos hinvalid] at h
    cases h
  · rw [if_neg hinvalid] at h
    obtain ⟨-, hrecord⟩ := not_or.mp hinvalid
    obtain ⟨hschema, hne⟩ := not_or.mp hrecord
    refine ⟨not_not.mp hschema, hne, ?_⟩
    cases hdirectory : outcomes.directoryError with
    | some message =>
      rw [hdirectory] at h
      cases h
    | none =>
      rw [hdirectory] at h
      by_cases hopens : outcomes.opens = true
      · by_cases hwrites : outcomes.writes = true
        · simp only [if_neg (not_not_intro hopens), if_neg (not_not_intro hwrites)] at h
          cases hrename : outcomes.renameError with
          | some message =>
            rw [hrename] at h
            cases h
          | none =>
            rw [hrename] at h
            obtain rfl : Function.update (Function.update fs (path ++ ".tmp") none) path
              (some (render record)) = fs' := congrArg (fun r => r.2.2) h
            rw [FileSystem.lookup, Function.update_self]
        · simp only [if_neg (not_not_intro hopens), if_pos hwrites] at h
          cases h
      · simp only [if_pos hopens] at h
        cases h

/-- **The stored zero offset**: a record that has been saved comes back for its own identity, and
for no other one, exactly if its motor identity is clean. -/
theorem save_load_iff (fs fs' : FileSystem) (outcomes : SaveOutcomes) (path : String)
    (record : ZeroOffsetRecord) (error error' : String)
    (h : saveAtomic fs outcomes path record error = (true, error', fs')) :
    ((∀ before reason, load (fs'.lookup path) path record.motorId record.slaveAlias
        record.slavePosition before reason = (.loaded, record, reason)) ∧
      ∀ motorId slaveAlias slavePosition before reason,
        (motorId, slaveAlias, slavePosition) ≠
          (record.motorId, record.slaveAlias, record.slavePosition) →
        (load (fs'.lookup path) path motorId slaveAlias slavePosition before reason).1 ≠ .loaded) ↔
      Clean record.motorId := by
  obtain ⟨hschema, hne, hlookup⟩ := saveAtomic_eq_true h
  rw [hlookup]
  constructor
  · rintro ⟨hown, -⟩
    exact clean_of_loaded (hown {} "")
  · intro hclean
    refine ⟨fun before reason => ?_,
      fun motorId slaveAlias slavePosition before reason hother => ?_⟩
    · rw [load_render hschema hclean hne, if_pos rfl]
    · rw [load_render hschema hclean hne, if_neg hother]
      exact fun hresult => ZeroOffsetLoadResult.noConfusion hresult

/-- A save in which nothing fails. -/
def noFailure : SaveOutcomes where
  directoryError := none
  opens := true
  writes := true
  written := []
  renameError := none
  removes := true

/-- A record of the first motor. -/
def motorOne : ZeroOffsetRecord where
  motorId := "M1".toList
  slaveAlias := 1
  zeroOffsetUnits := -5

theorem save_load_motorOne :
    ∃ fs' : FileSystem,
      saveAtomic (fun _ => none) noFailure "zero.txt" motorOne "" = (true, "", fs') ∧
      ∀ before reason, load (fs'.lookup "zero.txt") "zero.txt" motorOne.motorId
        motorOne.slaveAlias motorOne.slavePosition before reason = (.loaded, motorOne, reason) := by
  have hsave : saveAtomic (fun _ => none) noFailure "zero.txt" motorOne "" = (true, "", _) := rfl
  have hclean : Clean motorOne.motorId := ⟨by decide, by decide, by decide⟩
  exact ⟨_, hsave, ((save_load_iff _ _ noFailure "zero.txt" motorOne "" "" hsave).mpr hclean).1⟩

/-- A record whose identity contains a comment sign. -/
def commented : ZeroOffsetRecord := { motorId := "a#b".toList }

/-- The record is saved, refused for its own identity and returned for another one. -/
theorem commented_identity :
    ∃ fs' : FileSystem,
      saveAtomic (fun _ => none) noFailure "zero.txt" commented "" = (true, "", fs') ∧
      (load (fs'.lookup "zero.txt") "zero.txt" "a#b".toList 0 0 {} "").1 = .invalid ∧
      "a".toList ≠ commented.motorId ∧
      load (fs'.lookup "zero.txt") "zero.txt" "a".toList 0 0 {} "" =
        (.loaded, { motorId := "a".toList }, "") := by
  refine ⟨_, rfl, ?_, by decide, ?_⟩
  · decide +kernel
  · decide +kernel

end ZeroOffset

end Hardware

end JointController
