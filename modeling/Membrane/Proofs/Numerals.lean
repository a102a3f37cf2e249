import Mathlib.Data.List.Induction
import Mathlib.Data.List.TakeWhile
import Mathlib.Data.Nat.Digits.Defs
import Membrane.Convert

/-!
# Texts that are integers

The one grammar of integers in texts: an optional sign and one or more ASCII
decimal digits between blanks. A text is read exactly where it is of this form,
however long it is and however many zeros it begins with, and what is read is the
value of its digits. Whether the value fits the requested width is asked
afterwards.
-/

namespace Membrane

section Checked

variable {ε α : Type} {p : Prop} [Decidable p] {a b : α} {e e' : ε}

/-- A value behind a check is given where the check holds. -/
theorem checked_eq_ok_iff : (if p then .ok a else .error e : Except ε α) = .ok b ↔ p ∧ a = b := by
  by_cases holds : p <;> simp [holds]

/-- A value behind a check is refused where the check fails. -/
theorem checked_eq_error_iff :
    (if p then .ok a else .error e : Except ε α) = .error e' ↔ ¬ p ∧ e = e' := by
  by_cases holds : p <;> simp [holds]

end Checked

namespace Number

/-! ## Integers of a fixed width -/

/-- The integer of 64 bits with a given value is there exactly in their range. -/
theorem ofInt64_iff {n : Int} {k : Int64} :
    (-2 ^ 63 ≤ n ∧ n < 2 ^ 63) ∧ Int64.ofInt n = k ↔ k.toInt = n := by
  constructor
  · rintro ⟨⟨low, high⟩, rfl⟩
    exact Int64.toInt_ofInt_of_le low high
  · rintro rfl
    exact ⟨⟨k.le_toInt, k.toInt_lt⟩, k.ofInt_toInt⟩

/-- The integer of 32 bits with a given value is there exactly in their range. -/
theorem ofInt32_iff {n : Int} {k : Int32} :
    (-2 ^ 31 ≤ n ∧ n < 2 ^ 31) ∧ Int32.ofInt n = k ↔ k.toInt = n := by
  constructor
  · rintro ⟨⟨low, high⟩, rfl⟩
    exact Int32.toInt_ofInt_of_le low high
  · rintro rfl
    exact ⟨⟨k.le_toInt, k.toInt_lt⟩, k.ofInt_toInt⟩

end Number

namespace Text

/-! ## Blanks around a text -/

/-- A text that is nothing but blanks. -/
def IsBlanks (cs : List Char) : Prop :=
  ∀ c ∈ cs, isBlank c = true

/-- A text without any blank. -/
def IsSolid (cs : List Char) : Prop :=
  ∀ c ∈ cs, isBlank c = false

/-- Some text between blanks, of which there may be none. -/
def Surrounds (cs core : List Char) : Prop :=
  ∃ before after, cs = before ++ core ++ after ∧ IsBlanks before ∧ IsBlanks after

theorem IsBlanks.reverse {cs : List Char} (blanks : IsBlanks cs) : IsBlanks cs.reverse := by
  intro c mem
  exact blanks c (List.mem_reverse.mp mem)

theorem IsSolid.reverse {cs : List Char} (solid : IsSolid cs) : IsSolid cs.reverse := by
  intro c mem
  exact solid c (List.mem_reverse.mp mem)

theorem isSolid_cons {c : Char} {cs : List Char} :
    IsSolid (c :: cs) ↔ isBlank c = false ∧ IsSolid cs :=
  List.forall_mem_cons

theorem isSolid_append {cs ds : List Char} : IsSolid (cs ++ ds) ↔ IsSolid cs ∧ IsSolid ds :=
  List.forall_mem_append

/-- Blanks at the start are passed over. -/
theorem trimStart_append {blanks : List Char} (all : IsBlanks blanks) (rest : List Char) :
    trimStart (blanks ++ rest) = trimStart rest :=
  List.dropWhile_append_of_pos all

/-- Where there is anything solid, nothing behind it is passed over. -/
theorem trimStart_of_isSolid {core : List Char} (solid : IsSolid core) {after : List Char}
    (blanks : IsBlanks after) :
    trimStart (core ++ after) = if core = [] then [] else core ++ after := by
  cases core with
  | nil => exact List.dropWhile_eq_nil_iff.mpr blanks
  | cons c rest =>
    have first : isBlank c = false := solid c List.mem_cons_self
    simp [trimStart, first]

/-- Trimming takes the blanks at both ends away, and nothing else. -/
theorem surrounds_trim (cs : List Char) : Surrounds cs (trim cs) := by
  refine ⟨cs.takeWhile isBlank, ((trimStart cs).reverse.takeWhile isBlank).reverse, ?_, ?_, ?_⟩
  · have last : trim cs ++ ((trimStart cs).reverse.takeWhile isBlank).reverse = trimStart cs := by
      rw [trim, trimEnd, trimStart, ← List.reverse_append, List.takeWhile_append_dropWhile,
        List.reverse_reverse]
    rw [List.append_assoc, last]
    exact List.takeWhile_append_dropWhile.symm
  · exact fun c mem => List.mem_takeWhile_imp mem
  · exact IsBlanks.reverse fun c mem => List.mem_takeWhile_imp mem

/-- The trimmed text is the one solid text that the blanks at both ends
surround. -/
theorem trim_eq_iff_surrounds {cs core : List Char} (solid : IsSolid core) :
    trim cs = core ↔ Surrounds cs core := by
  constructor
  · rintro rfl
    exact surrounds_trim cs
  · rintro ⟨before, after, rfl, blanks, blanks'⟩
    rw [List.append_assoc, trim, trimStart_append blanks, trimStart_of_isSolid solid blanks']
    cases core with
    | nil => rfl
    | cons c rest =>
      have whole := trimStart_of_isSolid solid.reverse (List.forall_mem_nil _ : IsBlanks [])
      simp only [List.append_nil, List.reverse_eq_nil_iff, reduceCtorEq, if_false] at whole
      rw [if_neg (by simp), trimEnd, List.reverse_append, trimStart_append blanks'.reverse, whole,
        List.reverse_reverse]

/-! ## Digits -/

/-- One or more ASCII decimal digits. -/
def IsDigits (cs : List Char) : Prop :=
  cs ≠ [] ∧ ∀ c ∈ cs, '0' ≤ c ∧ c ≤ '9'

/-- The number that decimal digits stand for; the last one counts ones, the one
before it tens. -/
def digitsValue (cs : List Char) : Nat :=
  Nat.ofDigits 10 (cs.reverse.map fun c => c.toNat - '0'.toNat)

theorem isDigit_iff {c : Char} : c.isDigit = true ↔ '0' ≤ c ∧ c ≤ '9' := by
  simp [Char.isDigit, Char.le_def]

/-- Digits are read from left to right, each moving those before it one place
up. -/
theorem ofDigitChars_eq_digitsValue (cs : List Char) :
    Nat.ofDigitChars 10 cs 0 = digitsValue cs := by
  induction cs using List.reverseRecOn with
  | nil => rfl
  | append_singleton rest c ih =>
    rw [Nat.ofDigitChars] at ih ⊢
    rw [List.foldl_append, List.foldl_cons, List.foldl_nil, ih, digitsValue, digitsValue,
      List.reverse_append, List.reverse_singleton, List.singleton_append, List.map_cons,
      Nat.ofDigits_cons]
    exact Nat.add_comm _ _

theorem readNatural?_eq_some_iff {cs : List Char} {n : Nat} :
    readNatural? cs = some n ↔ IsDigits cs ∧ digitsValue cs = n := by
  have digits : (!cs.isEmpty && cs.all Char.isDigit) = true ↔ IsDigits cs := by
    simp [IsDigits, isDigit_iff]
  rw [readNatural?, ofDigitChars_eq_digitsValue, Option.ite_none_right_eq_some, digits,
    Option.some.injEq]

/-- What begins with a digit begins with no sign. -/
theorem IsDigits.head_ne {c : Char} {cs : List Char} (digits : IsDigits (c :: cs)) :
    c ≠ '-' ∧ c ≠ '+' := by
  obtain ⟨low, _⟩ := digits.2 c List.mem_cons_self
  constructor <;> rintro rfl <;> revert low <;> decide

theorem IsDigits.isSolid {cs : List Char} (digits : IsDigits cs) : IsSolid cs := by
  intro c mem
  obtain ⟨low, high⟩ := digits.2 c mem
  have low : 48 ≤ c.toNat := low
  have high : c.toNat ≤ 57 := high
  simp only [isBlank, blankRanges, List.any_cons, List.any_nil, Bool.or_false,
    Bool.or_eq_false_iff, Bool.and_eq_false_iff, decide_eq_false_iff_not]
  omega

/-! ## Integers -/

/-- The numerals of an integer: an optional sign and one or more ASCII decimal
digits. -/
inductive IsNumeral : List Char → Int → Prop where
  | unsigned {digits : List Char} (all : IsDigits digits) : IsNumeral digits (digitsValue digits)
  | plus {digits : List Char} (all : IsDigits digits) :
    IsNumeral ('+' :: digits) (digitsValue digits)
  | minus {digits : List Char} (all : IsDigits digits) :
    IsNumeral ('-' :: digits) (-(digitsValue digits : Int))

theorem IsNumeral.isSolid {cs : List Char} {n : Int} (numeral : IsNumeral cs n) : IsSolid cs := by
  cases numeral with
  | unsigned all => exact all.isSolid
  | plus all => exact isSolid_cons.mpr ⟨by decide, all.isSolid⟩
  | minus all => exact isSolid_cons.mpr ⟨by decide, all.isSolid⟩

/-- The reader of integers accepts numerals and nothing else, and gives their
value. -/
theorem readInteger?_eq_some_iff {cs : List Char} {n : Int} :
    readInteger? cs = some n ↔ IsNumeral cs n := by
  constructor
  · intro read
    unfold readInteger? at read
    split at read
    all_goals
      obtain ⟨value, digits, rfl⟩ := Option.map_eq_some_iff.mp read
      obtain ⟨all, rfl⟩ := readNatural?_eq_some_iff.mp digits
    · exact .minus all
    · exact .plus all
    · exact .unsigned all
  · intro numeral
    cases numeral with
    | plus all => rw [readInteger?, readNatural?_eq_some_iff.mpr ⟨all, rfl⟩, Option.map_some]
    | minus all => rw [readInteger?, readNatural?_eq_some_iff.mpr ⟨all, rfl⟩, Option.map_some]
    | unsigned all =>
      have digits : cs.all Char.isDigit = true := by
        rw [List.all_eq_true]
        exact fun c mem => isDigit_iff.mpr (all.2 c mem)
      rw [readInteger?_of_all_isDigit digits, readNatural?_eq_some_iff.mpr ⟨all, rfl⟩,
        Option.map_some]

/-- A text is a numeral of an integer between blanks. -/
def Denotes (text : String) (n : Int) : Prop :=
  ∃ numeral, Surrounds text.toList numeral ∧ IsNumeral numeral n

theorem readInteger?_trim_eq_some_iff {text : String} {n : Int} :
    readInteger? (trim text.toList) = some n ↔ Denotes text n := by
  rw [readInteger?_eq_some_iff]
  constructor
  · intro numeral
    exact ⟨_, surrounds_trim _, numeral⟩
  · rintro ⟨core, surrounds, numeral⟩
    rwa [(trim_eq_iff_surrounds numeral.isSolid).mpr surrounds]

/-- A text denotes at most one integer. -/
theorem Denotes.unique {text : String} {m n : Int} (first : Denotes text m)
    (second : Denotes text n) : m = n := by
  rw [← readInteger?_trim_eq_some_iff] at first second
  exact Option.some.inj (first.symm.trans second)

/-- A text is read as an integer of 64 bits where it denotes one. -/
theorem readLong?_eq_some_iff {text : String} {n : Int64} :
    readLong? text = some n ↔ Denotes text n.toInt := by
  rw [← readInteger?_trim_eq_some_iff, readLong?]
  cases readInteger? (trim text.toList) with
  | none => simp
  | some k =>
    have fits : Number.fitsLong k = true ↔ -2 ^ 63 ≤ k ∧ k < 2 ^ 63 := Number.fitsLong_iff
    simp only [Option.ite_none_right_eq_some, Option.some.injEq, fits]
    rw [Number.ofInt64_iff]
    exact eq_comm

theorem readLong?_eq_none_iff {text : String} :
    readLong? text = none ↔ ¬ ∃ n, Denotes text n ∧ -2 ^ 63 ≤ n ∧ n < 2 ^ 63 := by
  rw [Option.eq_none_iff_forall_ne_some]
  constructor
  · rintro unread ⟨n, denotes, low, high⟩
    apply unread (.ofInt n)
    rwa [readLong?_eq_some_iff, Int64.toInt_ofInt_of_le low high]
  · rintro outside n read
    exact outside ⟨n.toInt, readLong?_eq_some_iff.mp read, n.le_toInt, n.toInt_lt⟩

end Text

/-! ## Conversion of texts to integers -/

namespace Value

/-- An integer of 64 bits is narrowed to the same integer of 32 bits. -/
theorem narrow_eq_ok_iff {n : Int64} {k : Int32} : narrow n = .ok k ↔ k.toInt = n.toInt := by
  have fits : Number.fitsInt n.toInt = true ↔ -2 ^ 31 ≤ n.toInt ∧ n.toInt < 2 ^ 31 :=
    Number.fitsInt_iff
  rw [narrow, checked_eq_ok_iff, fits, Number.ofInt32_iff]

/-- What does not fit 32 bits overflows them, and there is no other fault. -/
theorem narrow_eq_error_iff {n : Int64} {fault : Fault} :
    narrow n = .error fault ↔
      ¬ (-2 ^ 31 ≤ n.toInt ∧ n.toInt < 2 ^ 31) ∧ fault = .overflow ValueType.int.display := by
  have fits : Number.fitsInt n.toInt = true ↔ -2 ^ 31 ≤ n.toInt ∧ n.toInt < 2 ^ 31 :=
    Number.fitsInt_iff
  rw [narrow, checked_eq_error_iff, fits]
  exact and_congr_right fun _ => eq_comm

/-- Conversion to 64 bits is the reading of the integer. -/
theorem changeType_long_eq (v : Value) (nonnull : v ≠ .null) :
    v.changeType .long = long <$> v.toLong .long := by
  cases v <;> first | rfl | exact absurd rfl nonnull

/-- Conversion to 32 bits narrows what is read as an integer of 64 bits. -/
theorem changeType_int_eq (v : Value) (nonnull : v ≠ .null) :
    v.changeType .int = v.toLong .int >>= fun n => int <$> narrow n := by
  cases v <;> first | rfl | exact absurd rfl nonnull

/-- A text becomes the integer of 64 bits that it denotes, whatever it is on the
way to, and is otherwise in no correct form. -/
theorem toLong_string (text : String) :
    (∃ n : Int64, Text.Denotes text n.toInt ∧ ∀ target, (string text).toLong target = .ok n) ∨
      (¬ ∃ n, Text.Denotes text n ∧ -2 ^ 63 ≤ n ∧ n < 2 ^ 63) ∧
        ∀ target, (string text).toLong target = .error (.format text target.display) := by
  cases read : Text.readLong? text with
  | some n =>
    refine Or.inl ⟨n, Text.readLong?_eq_some_iff.mp read, fun target => ?_⟩
    simp only [toLong, read]
  | none =>
    refine Or.inr ⟨Text.readLong?_eq_none_iff.mp read, fun target => ?_⟩
    simp only [toLong, read]

/-- Narrowing as the last step of a conversion to 32 bits succeeds with the same
integer. -/
theorem int_narrow_eq_ok_iff {n : Int64} {k : Int32} :
    int <$> narrow n = .ok (.int k) ↔ k.toInt = n.toInt := by
  rw [← narrow_eq_ok_iff]
  cases narrow n <;> simp [Functor.map, Except.map]

theorem int_narrow_eq_error_iff {n : Int64} {fault : Fault} :
    int <$> narrow n = .error fault ↔
      ¬ (-2 ^ 31 ≤ n.toInt ∧ n.toInt < 2 ^ 31) ∧ fault = .overflow ValueType.int.display := by
  rw [← narrow_eq_error_iff]
  cases narrow n <;> simp [Functor.map, Except.map]

section Strings

variable {text : String} {fault : Fault}

/-- A text becomes the integer of 64 bits that it denotes. -/
theorem changeType_long_string_eq_ok_iff {n : Int64} :
    (string text).changeType .long = .ok (.long n) ↔ Text.Denotes text n.toInt := by
  rw [changeType_long_eq _ (by simp), ← Text.readLong?_eq_some_iff, toLong]
  cases Text.readLong? text <;> simp [Functor.map, Except.map]

/-- A text that denotes no integer of 64 bits is in no correct form for one, and
there is no other fault. -/
theorem changeType_long_string_eq_error_iff :
    (string text).changeType .long = .error fault ↔
      (¬ ∃ n, Text.Denotes text n ∧ -2 ^ 63 ≤ n ∧ n < 2 ^ 63) ∧
        .format text ValueType.long.display = fault := by
  rw [changeType_long_eq _ (by simp), ← Text.readLong?_eq_none_iff, toLong]
  cases Text.readLong? text <;> simp [Functor.map, Except.map]

/-- A text becomes the integer of 32 bits that it denotes. -/
theorem changeType_int_string_eq_ok_iff {n : Int32} :
    (string text).changeType .int = .ok (.int n) ↔ Text.Denotes text n.toInt := by
  rw [changeType_int_eq _ (by simp)]
  rcases toLong_string text with ⟨k, denotes, read⟩ | ⟨outside, unread⟩
  · rw [read]
    show int <$> narrow k = .ok (.int n) ↔ _
    rw [int_narrow_eq_ok_iff]
    exact ⟨fun same => same ▸ denotes, fun denoted => denoted.unique denotes⟩
  · rw [unread]
    refine iff_of_false (by simp [bind, Except.bind]) fun denotes => outside ⟨_, denotes, ?_⟩
    have low := n.le_toInt
    have high := n.toInt_lt
    omega

/-- A text that denotes an integer of 64 bits overflows 32 bits or becomes one of
them; any other text is in no correct form. -/
theorem changeType_int_string_eq_error_iff :
    (string text).changeType .int = .error fault ↔
      (¬ ∃ n, Text.Denotes text n ∧ -2 ^ 63 ≤ n ∧ n < 2 ^ 63) ∧
          .format text ValueType.int.display = fault ∨
        (∃ n, Text.Denotes text n ∧ (-2 ^ 63 ≤ n ∧ n < 2 ^ 63) ∧ ¬ (-2 ^ 31 ≤ n ∧ n < 2 ^ 31)) ∧
          .overflow ValueType.int.display = fault := by
  rw [changeType_int_eq _ (by simp)]
  rcases toLong_string text with ⟨k, denotes, read⟩ | ⟨outside, unread⟩
  · rw [read]
    show int <$> narrow k = .error fault ↔ _
    have inside : ∃ n, Text.Denotes text n ∧ -2 ^ 63 ≤ n ∧ n < 2 ^ 63 :=
      ⟨k.toInt, denotes, k.le_toInt, k.toInt_lt⟩
    rw [int_narrow_eq_error_iff, or_iff_right fun misread => misread.1 inside,
      eq_comm (a := fault)]
    refine and_congr_left fun _ => ⟨?_, ?_⟩
    · exact fun beyond => ⟨k.toInt, denotes, ⟨k.le_toInt, k.toInt_lt⟩, beyond⟩
    · rintro ⟨n, denoted, _, beyond⟩
      rwa [denotes.unique denoted]
  · rw [unread, or_iff_left, and_iff_right outside]
    · exact Iff.of_eq (Except.error.injEq _ _)
    · rintro ⟨⟨n, denotes, range, _⟩, _⟩
      exact outside ⟨n, denotes, range⟩

end Strings

end Value

/-- Integers are read from texts by one grammar. A text becomes the integer of 64
bits that it denotes, if it denotes one in their range, and is otherwise in no
correct form. The same texts are in a correct form for 32 bits; those whose value
does not fit them overflow. -/
theorem integer_texts_follow_one_grammar (text : String) :
    (∀ n : Int64, (Value.string text).changeType .long = .ok (.long n) ↔
      Text.Denotes text n.toInt) ∧
    ((Value.string text).changeType .long = .error (.format text "Int64") ↔
      ¬ ∃ n, Text.Denotes text n ∧ -2 ^ 63 ≤ n ∧ n < 2 ^ 63) ∧
    (∀ n : Int32, (Value.string text).changeType .int = .ok (.int n) ↔
      Text.Denotes text n.toInt) ∧
    ((Value.string text).changeType .int = .error (.overflow "Int32") ↔
      ∃ n, Text.Denotes text n ∧ (-2 ^ 63 ≤ n ∧ n < 2 ^ 63) ∧ ¬ (-2 ^ 31 ≤ n ∧ n < 2 ^ 31)) ∧
    ((Value.string text).changeType .int = .error (.format text "Int32") ↔
      ¬ ∃ n, Text.Denotes text n ∧ -2 ^ 63 ≤ n ∧ n < 2 ^ 63) := by
  refine ⟨fun n => Value.changeType_long_string_eq_ok_iff, ?_,
    fun n => Value.changeType_int_string_eq_ok_iff, ?_, ?_⟩
  · rw [Value.changeType_long_string_eq_error_iff, and_iff_left (by rfl)]
  · rw [Value.changeType_int_string_eq_error_iff, or_iff_right (by simp), and_iff_left (by rfl)]
  · rw [Value.changeType_int_string_eq_error_iff, or_iff_left (by simp), and_iff_left (by rfl)]

end Membrane
