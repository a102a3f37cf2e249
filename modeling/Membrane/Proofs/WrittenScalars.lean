import Membrane.Proofs.Conversion

/-!
# Texts of truth values and integers

The text that a truth value or an integer is converted to is read back as that value,
whatever blanks are put around it, down to the least integer of each width
(`texts_are_undone_by_parsing`). Hence no two values of a type have one text. The text of
an int is the same number as a long, and the text of a long that 32 bits do not hold
overflows them.
-/

namespace Membrane

namespace Text

variable {text : String}

/-- What is written for an integer is a numeral of it. -/
theorem isNumeral_writeInteger (n : Int) : IsNumeral (writeInteger n) n :=
  readInteger?_eq_some_iff.mp (readInteger?_writeInteger n)

/-- A text that surrounds the numeral of an integer denotes it. -/
theorem denotes_of_surrounds {n : Int}
    (surrounds : Surrounds text.toList (String.ofList (writeInteger n)).toList) :
    Denotes text n := by
  rw [String.toList_ofList] at surrounds
  exact ⟨_, surrounds, isNumeral_writeInteger n⟩

/-- A text surrounds itself. -/
theorem surrounds_self (cs : List Char) : Surrounds cs cs :=
  ⟨[], [], (List.append_nil cs).symm, List.forall_mem_nil _, List.forall_mem_nil _⟩

end Text

namespace Value

open Text

/-- The text of a truth value or of an integer: the word for the one, the decimal
numeral for the other. -/
inductive Written : Value → ValueType → String → Prop where
  | bool (b : Bool) : Written (bool b) .bool (if b then "true" else "false")
  | int (n : Int32) : Written (int n) .int (.ofList (writeInteger n.toInt))
  | long (n : Int64) : Written (long n) .long (.ofList (writeInteger n.toInt))

variable {v : Value} {source : ValueType} {text padded : String}

theorem exists_written (typed : v.type? = some source) (plain : source ∈ [.bool, .int, .long]) :
    ∃ text, v.Written source text := by
  cases v with
  | bool b =>
    cases typed
    exact ⟨_, .bool b⟩
  | int n =>
    cases typed
    exact ⟨_, .int n⟩
  | long n =>
    cases typed
    exact ⟨_, .long n⟩
  | null => cases typed
  | double | string | object =>
    cases typed
    simp at plain

/-- Conversion to a text writes the value. -/
theorem Written.changeType_string (written : v.Written source text) :
    v.changeType .string = .ok (string text) := by
  cases written <;> rfl

/-- How a text that surrounds the one of a value is read. -/
structure ReadBack (v : Value) (source : ValueType) (padded : String) : Prop where
  /-- It is read as the value. -/
  same : (string padded).changeType source = .ok v
  /-- The text of an int is read as the same number of 64 bits. -/
  wide : ∀ n : Int32, v = int n → (string padded).changeType .long = .ok (long n.toInt64)
  /-- The text of a long that 32 bits do not hold overflows them. -/
  beyond : ∀ n : Int64, v = long n → ¬ (-2 ^ 31 ≤ n.toInt ∧ n.toInt < 2 ^ 31) →
    (string padded).changeType .int = .error (.overflow "Int32")

theorem Written.readBack (written : v.Written source text)
    (surrounds : Surrounds padded.toList text.toList) : v.ReadBack source padded := by
  cases written with
  | bool b =>
    have word : IsWord padded (if b then "true" else "false") := by
      cases b <;> exact ⟨_, surrounds, by decide⟩
    constructor
    case same =>
      rw [changeType_bool_eq _ (by simp), toBool, readBool?_eq_some_iff.mpr word]
      rfl
    case wide =>
      rintro n ⟨⟩
    case beyond =>
      rintro n ⟨⟩
  | int n =>
    have denotes := denotes_of_surrounds surrounds
    constructor
    case same => exact changeType_int_string_eq_ok_iff.mpr denotes
    case wide =>
      rintro m ⟨⟩
      rw [changeType_long_string_eq_ok_iff, Int32.toInt_toInt64]
      exact denotes
    case beyond =>
      rintro m ⟨⟩
  | long n =>
    have denotes := denotes_of_surrounds surrounds
    constructor
    case same => exact changeType_long_string_eq_ok_iff.mpr denotes
    case wide =>
      rintro m ⟨⟩
    case beyond =>
      rintro m ⟨⟩ outside
      rw [changeType_int_string_eq_error_iff]
      exact Or.inr ⟨⟨n.toInt, denotes, ⟨n.le_toInt, n.toInt_lt⟩, outside⟩, rfl⟩

/-- A text is written for one value of a type only, the one that it is read as. -/
theorem Written.unique {other : Value} (written : v.Written source text)
    (otherWritten : other.Written source text) : other = v := by
  have alone := surrounds_self text.toList
  have same := (written.readBack alone).same
  have otherSame := (otherWritten.readBack alone).same
  exact Except.ok.inj (otherSame.symm.trans same)

end Value

open Text in
/-- Every truth value and every integer has a text that is read as the same value, with
any blanks around it. An int is also read as the long of the same number, and a long that
32 bits do not hold overflows them. No other value of the type has that text. -/
theorem texts_are_undone_by_parsing {v : Value} {source : ValueType}
    (typed : v.type? = some source) (plain : source ∈ [.bool, .int, .long]) :
    ∃ text, v.changeType .string = .ok (.string text) ∧
      (∀ padded : String, Surrounds padded.toList text.toList → v.ReadBack source padded) ∧
      ∀ other, other.type? = some source → other.changeType .string = .ok (.string text) →
        other = v := by
  rcases Value.exists_written typed plain with ⟨text, written⟩
  have only (other : Value) (alike : other.type? = some source)
      (shared : other.changeType .string = .ok (.string text)) : other = v := by
    rcases Value.exists_written alike plain with ⟨otherText, otherWritten⟩
    cases otherWritten.changeType_string.symm.trans shared
    exact written.unique otherWritten
  exact ⟨text, written.changeType_string, fun _ => written.readBack, only⟩

/-- The least long is read from its text between an em space and an end of line, although
its magnitude is no long, and the text overflows an int. -/
theorem least_long_is_read_back :
    let least : Value := .long (-9223372036854775808)
    let padded := "\u2003-9223372036854775808\n"
    least.type? = some .long ∧ ValueType.long ∈ [ValueType.bool, .int, .long] ∧
      least.changeType .string = .ok (.string "-9223372036854775808") ∧
      (Value.string padded).changeType .long = .ok least ∧
      (Value.string padded).changeType .int = .error (.overflow "Int32") := by
  intro least padded
  have typed : least.type? = some .long := rfl
  have plain : ValueType.long ∈ [ValueType.bool, .int, .long] := by simp
  rcases texts_are_undone_by_parsing typed plain with ⟨text, written, reads, _⟩
  have converted : least.changeType .string = .ok (.string "-9223372036854775808") := by
    decide +kernel
  cases written.symm.trans converted
  have before : Text.IsBlanks ['\u2003'] := by simp [Text.IsBlanks]; decide
  have after : Text.IsBlanks ['\n'] := by simp [Text.IsBlanks]; decide
  have surrounds : Text.Surrounds padded.toList "-9223372036854775808".toList :=
    ⟨_, _, by decide, before, after⟩
  have read := reads padded surrounds
  exact ⟨typed, plain, converted, read.same, read.beyond _ rfl (by decide)⟩

end Membrane
