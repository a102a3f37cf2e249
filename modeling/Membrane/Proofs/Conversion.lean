import Membrane.Proofs.Rounding

/-!
# When a conversion fails

A conversion fails by a cast, a format or an overflow fault, and which one, if
any, is settled by the value and the type. Objects are cast to no scalar; texts
have to be of the form that the type asks for; numbers have to be in its range. The
forms of texts are given as grammars, beside the one of integers.
-/

namespace Membrane

namespace Text

open Number

/-! ## Words -/

/-- A text is a word between blanks, in any case of its ASCII letters. -/
def IsWord (text word : String) : Prop :=
  ∃ cs, Surrounds text.toList cs ∧ cs.map Char.toLower = word.toList

/-- No letter in capitals is a blank, so that a blank is its own small letter. -/
theorem toLower_of_isBlank {c : Char} (blank : isBlank c = true) : c.toLower = c := by
  have small : ¬ (c.val ≥ 'A'.val ∧ c.val ≤ 'Z'.val) := by
    rintro ⟨low, high⟩
    have low : 65 ≤ c.toNat := low
    have high : c.toNat ≤ 90 := high
    simp only [isBlank, blankRanges, List.any_cons, List.any_nil, Bool.or_false, Bool.or_eq_true,
      Bool.and_eq_true, decide_eq_true_eq] at blank
    omega
  exact dif_neg small

theorem isSolid_of_map_toLower {cs : List Char} (solid : IsSolid (cs.map Char.toLower)) :
    IsSolid cs := by
  intro c mem
  by_contra blank
  rw [Bool.not_eq_false] at blank
  have here := solid c.toLower (List.mem_map_of_mem mem)
  rw [toLower_of_isBlank blank, blank] at here
  cases here

/-- A trimmed text is compared with a word of letters where the text is that word
between blanks. -/
theorem ofList_map_toLower_trim_eq_iff (text : String) {word : String}
    (solid : IsSolid word.toList) :
    String.ofList ((trim text.toList).map Char.toLower) = word ↔ IsWord text word := by
  rw [← String.toList_inj, String.toList_ofList]
  constructor
  · intro same
    exact ⟨_, surrounds_trim _, same⟩
  · rintro ⟨cs, surrounds, same⟩
    have letters : IsSolid cs := isSolid_of_map_toLower (same ▸ solid)
    rw [(trim_eq_iff_surrounds letters).mpr surrounds, same]

/-- A text is read as a truth value where it is the word for it. -/
theorem readBool?_eq_some_iff {text : String} {b : Bool} :
    readBool? text = some b ↔ IsWord text (if b then "true" else "false") := by
  have solid : IsSolid (if b then "true" else "false").toList := by
    cases b <;> simp [IsSolid] <;> decide
  rw [← ofList_map_toLower_trim_eq_iff text solid, readBool?]
  by_cases isTrue : String.ofList ((trim text.toList).map Char.toLower) = "true" <;>
    cases b <;> simp [isTrue]

/-- It is read as none where it is neither of the two words. -/
theorem readBool?_eq_none_iff {text : String} :
    readBool? text = none ↔ ¬ IsWord text "true" ∧ ¬ IsWord text "false" := by
  rw [Option.eq_none_iff_forall_ne_some, Bool.forall_bool, and_comm, ne_eq, ne_eq,
    readBool?_eq_some_iff, readBool?_eq_some_iff, if_pos rfl, if_neg Bool.false_ne_true]

/-! ## Numerals of doubles -/

/-- Digits with a point before, among or behind them, or without one. -/
inductive IsMantissa : List Char → Prop where
  | whole {digits : List Char} (all : IsDigits digits) : IsMantissa digits
  | point {whole places : List Char} (all : IsDigits (whole ++ places)) :
    IsMantissa (whole ++ '.' :: places)

/-- A power of ten, which may be left out. -/
inductive IsPower : List Char → Prop where
  | none : IsPower []
  | some {mark : Char} {cs : List Char} {n : Int} (marked : mark = 'e' ∨ mark = 'E')
    (numeral : IsNumeral cs n) : IsPower (mark :: cs)

/-- A numeral of a double without its sign: digits and a power of ten, or a word. -/
inductive IsUnsigned : List Char → Prop where
  | number {mantissa power : List Char} (isMantissa : IsMantissa mantissa)
    (isPower : IsPower power) : IsUnsigned (mantissa ++ power)
  | word {cs : List Char} (isWord : cs.map Char.toLower = "inf".toList ∨
    cs.map Char.toLower = "infinity".toList ∨ cs.map Char.toLower = "nan".toList) : IsUnsigned cs

/-- A numeral of a double. -/
inductive IsDouble : List Char → Prop where
  | unsigned {cs : List Char} (rest : IsUnsigned cs) : IsDouble cs
  | plus {cs : List Char} (rest : IsUnsigned cs) : IsDouble ('+' :: cs)
  | minus {cs : List Char} (rest : IsUnsigned cs) : IsDouble ('-' :: cs)

/-- A text is a numeral of a double between blanks. -/
def DenotesDouble (text : String) : Prop :=
  ∃ numeral, Surrounds text.toList numeral ∧ IsDouble numeral

/-- What is behind digits does not begin with another one. -/
def EndsDigits (rest : List Char) : Prop :=
  ∀ c ∈ rest.head?, c.isDigit = false

theorem takeWhile_dropWhile_digits {digits rest : List Char}
    (all : ∀ c ∈ digits, '0' ≤ c ∧ c ≤ '9') (ends : EndsDigits rest) :
    (digits ++ rest).takeWhile Char.isDigit = digits ∧
      (digits ++ rest).dropWhile Char.isDigit = rest := by
  have all : ∀ c ∈ digits, c.isDigit = true := fun c mem => isDigit_iff.mpr (all c mem)
  rw [List.takeWhile_append_of_pos all, List.dropWhile_append_of_pos all]
  cases rest with
  | nil => simp
  | cons c cs => simp [ends c rfl]

theorem IsPower.endsDigits {power : List Char} (isPower : IsPower power) : EndsDigits power := by
  cases isPower with
  | none => simp [EndsDigits]
  | some marked => rcases marked with rfl | rfl <;> simp [EndsDigits]

theorem isSome_readExponent?_iff {cs : List Char} :
    (Decimal.readExponent? cs).isSome = true ↔ IsPower cs := by
  constructor
  · intro read
    cases cs with
    | nil => exact .none
    | cons mark cs =>
      by_cases marked : mark = 'e' ∨ mark = 'E'
      · rw [Decimal.readExponent?, if_pos marked] at read
        obtain ⟨n, read⟩ := Option.isSome_iff_exists.mp read
        exact .some marked (readInteger?_eq_some_iff.mp read)
      · simp [Decimal.readExponent?, marked] at read
  · intro isPower
    cases isPower with
    | none => rfl
    | some marked numeral =>
      rw [Decimal.readExponent?, if_pos marked, readInteger?_eq_some_iff.mpr numeral]
      rfl

theorem isSome_readNatural?_iff {cs : List Char} :
    (readNatural? cs).isSome = true ↔ IsDigits cs := by
  simp only [Option.isSome_iff_exists, readNatural?_eq_some_iff, exists_and_left, exists_eq',
    and_true]

/-- How a numeral is taken apart behind its first digits: the digits after a point,
and what is behind them. -/
def splitPoint : List Char → List Char × List Char
  | '.' :: after => (after.takeWhile Char.isDigit, after.dropWhile Char.isDigit)
  | rest => ([], rest)

theorem splitPoint_of_ne {rest : List Char} (pointless : rest.head? ≠ some '.') :
    splitPoint rest = ([], rest) := by
  unfold splitPoint
  split
  · exact absurd rfl pointless
  · rfl

/-- A numeral is read if there are digits before or behind its point, and the rest
is a power of ten. -/
theorem isSome_readUnsigned? (negative : Bool) (cs : List Char) :
    (Decimal.readUnsigned? negative cs).isSome = true ↔
      IsDigits (cs.takeWhile Char.isDigit ++ (splitPoint (cs.dropWhile Char.isDigit)).1) ∧
        IsPower (splitPoint (cs.dropWhile Char.isDigit)).2 := by
  -- The last two steps, once the numeral is taken apart.
  have read (whole places rest : List Char) : (do
      let digits ← readNatural? (whole ++ places)
      let power ← Decimal.readExponent? rest
      pure (⟨negative, digits, power - places.length⟩ : Decimal)).isSome = true ↔
        IsDigits (whole ++ places) ∧ IsPower rest := by
    rw [← isSome_readNatural?_iff, ← isSome_readExponent?_iff]
    cases readNatural? (whole ++ places) with
    | none => simp
    | some n => cases Decimal.readExponent? rest <;> simp
  rw [Decimal.readUnsigned?]
  cases behind : cs.dropWhile Char.isDigit with
  | nil => exact read _ [] []
  | cons c after =>
    by_cases point : c = '.'
    · subst point
      exact read _ (after.takeWhile Char.isDigit) (after.dropWhile Char.isDigit)
    · have pointless : splitPoint (c :: after) = ([], c :: after) :=
        splitPoint_of_ne (by simpa using point)
      rw [pointless, ← read]
      simp [point]

/-- Digits, with or without a point, and a power of ten are read, and nothing
else. -/
theorem isSome_readUnsigned?_iff {negative : Bool} {cs : List Char} :
    (Decimal.readUnsigned? negative cs).isSome = true ↔
      ∃ mantissa power, cs = mantissa ++ power ∧ IsMantissa mantissa ∧ IsPower power := by
  rw [isSome_readUnsigned?]
  constructor
  · rintro ⟨digits, isPower⟩
    have whole : cs.takeWhile Char.isDigit ++ cs.dropWhile Char.isDigit = cs :=
      List.takeWhile_append_dropWhile
    by_cases pointed : (cs.dropWhile Char.isDigit).head? = some '.'
    · obtain ⟨after, rest⟩ := List.head?_eq_some_iff.mp pointed
      rw [rest] at digits isPower whole
      refine ⟨_, _, ?_, .point digits, isPower⟩
      rw [List.append_assoc, List.cons_append]
      simp only [splitPoint, List.takeWhile_append_dropWhile]
      exact whole.symm
    · rw [splitPoint_of_ne pointed] at digits isPower
      rw [List.append_nil] at digits
      exact ⟨_, _, whole.symm, .whole digits, isPower⟩
  · rintro ⟨mantissa, power, rfl, isMantissa, isPower⟩
    cases isMantissa with
    | whole all =>
      obtain ⟨taken, dropped⟩ := takeWhile_dropWhile_digits all.2 isPower.endsDigits
      have pointless : power.head? ≠ some '.' := by
        cases isPower with
        | none => simp
        | some marked => rcases marked with rfl | rfl <;> simp
      rw [taken, dropped, splitPoint_of_ne pointless, List.append_nil]
      exact ⟨all, isPower⟩
    | @point whole places all =>
      have first : ∀ c ∈ whole, '0' ≤ c ∧ c ≤ '9' :=
        fun c mem => all.2 c (List.mem_append_left _ mem)
      have second : ∀ c ∈ places, '0' ≤ c ∧ c ≤ '9' :=
        fun c mem => all.2 c (List.mem_append_right _ mem)
      have ends : EndsDigits ('.' :: (places ++ power)) := by simp [EndsDigits]
      obtain ⟨taken, dropped⟩ := takeWhile_dropWhile_digits first ends
      obtain ⟨taken', dropped'⟩ := takeWhile_dropWhile_digits second isPower.endsDigits
      rw [List.append_assoc, List.cons_append, taken, dropped]
      simp only [splitPoint, taken', dropped']
      exact ⟨all, isPower⟩

/-- A numeral without its sign does not begin with one. -/
theorem IsUnsigned.head_ne {cs : List Char} (unsigned : IsUnsigned cs) {c : Char}
    (first : cs.head? = some c) : c ≠ '-' ∧ c ≠ '+' := by
  cases unsigned with
  | number isMantissa isPower =>
    cases isMantissa with
    | @whole digits all =>
      obtain ⟨d, rest, rfl⟩ := List.exists_cons_of_ne_nil all.1
      cases first
      exact all.head_ne
    | @point whole places all =>
      cases whole with
      | nil =>
        cases first
        decide
      | cons d rest =>
        cases first
        exact all.head_ne
  | word isWord =>
    obtain ⟨rest, rfl⟩ := List.head?_eq_some_iff.mp first
    constructor <;> rintro rfl <;> simp at isWord

theorem isUnsigned_iff {cs : List Char} :
    IsUnsigned cs ↔
      (cs.map Char.toLower = "inf".toList ∨ cs.map Char.toLower = "infinity".toList ∨
        cs.map Char.toLower = "nan".toList) ∨
      ∃ mantissa power, cs = mantissa ++ power ∧ IsMantissa mantissa ∧ IsPower power := by
  constructor
  · intro unsigned
    cases unsigned with
    | number isMantissa isPower => exact Or.inr ⟨_, _, rfl, isMantissa, isPower⟩
    | word isWord => exact Or.inl isWord
  · rintro (isWord | ⟨mantissa, power, rfl, isMantissa, isPower⟩)
    · exact .word isWord
    · exact .number isMantissa isPower

/-- A numeral is read where there is one without a sign behind its sign. -/
theorem isSome_read?_iff_isUnsigned {cs : List Char} :
    (Binary64.read? cs).isSome = true ↔ IsUnsigned (splitSign cs).2 := by
  rw [isUnsigned_iff, Binary64.read?, ← isSome_readUnsigned?_iff]
  simp only [← String.toList_inj, String.toList_ofList]
  by_cases infinite : (splitSign cs).2.map Char.toLower = "inf".toList ∨
      (splitSign cs).2.map Char.toLower = "infinity".toList
  · rw [if_pos infinite, ← or_assoc]
    exact iff_of_true rfl (Or.inl (Or.inl infinite))
  · by_cases nan : (splitSign cs).2.map Char.toLower = "nan".toList
    · rw [if_neg infinite, if_pos nan]
      exact iff_of_true rfl (Or.inl (Or.inr (Or.inr nan)))
    · rw [if_neg infinite, if_neg nan, Option.isSome_map, ← or_assoc, or_iff_right infinite,
        or_iff_right nan]

theorem isDouble_iff {cs : List Char} : IsDouble cs ↔ IsUnsigned (splitSign cs).2 := by
  constructor
  · intro double
    cases double with
    | plus rest => exact rest
    | minus rest => exact rest
    | unsigned rest =>
      unfold splitSign
      split
      · exact absurd rfl (rest.head_ne rfl).1
      · exact absurd rfl (rest.head_ne rfl).2
      · exact rest
  · unfold splitSign
    split
    · exact .minus
    · exact .plus
    · exact .unsigned

theorem IsMantissa.isSolid {cs : List Char} (isMantissa : IsMantissa cs) : IsSolid cs := by
  cases isMantissa with
  | whole all => exact all.isSolid
  | point all =>
    obtain ⟨whole, places⟩ := isSolid_append.mp all.isSolid
    exact isSolid_append.mpr ⟨whole, isSolid_cons.mpr ⟨by decide, places⟩⟩

theorem IsPower.isSolid {cs : List Char} (isPower : IsPower cs) : IsSolid cs := by
  cases isPower with
  | none => exact List.forall_mem_nil _
  | some marked numeral =>
    refine isSolid_cons.mpr ⟨?_, numeral.isSolid⟩
    rcases marked with rfl | rfl <;> decide

theorem IsUnsigned.isSolid {cs : List Char} (unsigned : IsUnsigned cs) : IsSolid cs := by
  cases unsigned with
  | number isMantissa isPower => exact isSolid_append.mpr ⟨isMantissa.isSolid, isPower.isSolid⟩
  | word isWord =>
    apply isSolid_of_map_toLower
    rcases isWord with same | same | same <;> (rw [same]; simp [IsSolid]; decide)

theorem IsDouble.isSolid {cs : List Char} (double : IsDouble cs) : IsSolid cs := by
  cases double with
  | unsigned rest => exact rest.isSolid
  | plus rest => exact isSolid_cons.mpr ⟨by decide, rest.isSolid⟩
  | minus rest => exact isSolid_cons.mpr ⟨by decide, rest.isSolid⟩

/-- A text is read as a double where it is a numeral of one. -/
theorem readDouble?_eq_none_iff {text : String} :
    readDouble? text = none ↔ ¬ DenotesDouble text := by
  rw [readDouble?, ← Option.not_isSome_iff_eq_none, not_iff_not, isSome_read?_iff_isUnsigned,
    ← isDouble_iff]
  constructor
  · intro double
    exact ⟨_, surrounds_trim _, double⟩
  · rintro ⟨numeral, surrounds, double⟩
    rwa [(trim_eq_iff_surrounds double.isSolid).mpr surrounds]

end Text

/-! ## Faults of conversions -/

/-- The types of scalars. -/
def ValueType.IsScalar : ValueType → Prop
  | bool | int | long | double | string => True
  | any | object _ => False

/-- A text is not of the form that a type asks for. Integers of both widths ask for
one of 64 bits. -/
def ValueType.Misreads (target : ValueType) (text : String) : Prop :=
  match target with
  | bool => ¬ Text.IsWord text "true" ∧ ¬ Text.IsWord text "false"
  | int | long => ¬ ∃ n, Text.Denotes text n ∧ -2 ^ 63 ≤ n ∧ n < 2 ^ 63
  | double => ¬ Text.DenotesDouble text
  | any | string | object _ => False

namespace Value

open Number

/-- A value is a number, or the text of one, that does not fit a type of
integers. -/
def Overflows : Value → ValueType → Prop
  | double x, .long =>
    x.isFinite = false ∨ ∃ n, RoundsTo x.toRat n ∧ ¬ (-2 ^ 63 ≤ n ∧ n < 2 ^ 63)
  | double x, .int =>
    x.isFinite = false ∨ ∃ n, RoundsTo x.toRat n ∧ ¬ (-2 ^ 31 ≤ n ∧ n < 2 ^ 31)
  | long n, .int => ¬ (-2 ^ 31 ≤ n.toInt ∧ n.toInt < 2 ^ 31)
  | string text, .int =>
    ∃ n, Text.Denotes text n ∧ (-2 ^ 63 ≤ n ∧ n < 2 ^ 63) ∧ ¬ (-2 ^ 31 ≤ n ∧ n < 2 ^ 31)
  | _, _ => False

/-- The ways in which a conversion faults. -/
inductive Faults : Value → ValueType → Fault → Prop where
  /-- No object becomes a scalar. -/
  | ofObject {ref : ObjectRef} {target : ValueType} (scalar : target.IsScalar) :
    Faults (object ref) target (.invalidCast ref.typeName target.display)
  /-- Only objects of its name become a type of objects. -/
  | toObject {v : Value} {name : String} (nonnull : v ≠ null)
    (other : ∀ ref, v = object ref → ref.typeName ≠ name) :
    Faults v (.object name) (.invalidCast v.label name)
  | format {text : String} {target : ValueType} (misreads : target.Misreads text) :
    Faults (string text) target (.format text target.display)
  | overflow {v : Value} {target : ValueType} (overflows : v.Overflows target) :
    Faults v target (.overflow target.display)

theorem map_eq_error_iff {α β : Type} {g : α → β} {outcome : Except Fault α} {fault : Fault} :
    g <$> outcome = .error fault ↔ outcome = .error fault := by
  cases outcome <;> simp [Functor.map, Except.map]

theorem changeType_any_eq (v : Value) : v.changeType .any = .ok v := by
  cases v <;> rfl

theorem changeType_bool_eq (v : Value) (nonnull : v ≠ null) :
    v.changeType .bool = bool <$> v.toBool := by
  cases v <;> first | rfl | exact absurd rfl nonnull

theorem changeType_double_eq (v : Value) (nonnull : v ≠ null) :
    v.changeType .double = double <$> v.toDouble := by
  cases v <;> first | rfl | exact absurd rfl nonnull

theorem changeType_string_eq (v : Value) (nonnull : v ≠ null) :
    v.changeType .string = string <$> v.toText := by
  cases v <;> first | rfl | exact absurd rfl nonnull

theorem changeType_object_eq (v : Value) (nonnull : v ≠ null) (name : String) :
    v.changeType (.object name) = v.toObject name := by
  cases v <;> first | rfl | exact absurd rfl nonnull

/-- An object becomes a scalar under no circumstances. -/
theorem faults_object_iff {ref : ObjectRef} {target : ValueType} (scalar : target.IsScalar)
    {fault : Fault} :
    (object ref).Faults target fault ↔ (object ref).castFault target = fault := by
  have shown : (object ref).castFault target = .invalidCast ref.typeName target.display := rfl
  constructor
  · intro faults
    cases faults with
    | ofObject => rfl
    | toObject => exact scalar.elim
    | overflow overflows => cases target <;> exact overflows.elim
  · rintro rfl
    exact .ofObject scalar

/-- A text faults where it is not of the right form, or overflows. -/
theorem faults_string_iff {text : String} {target : ValueType} (scalar : target.IsScalar)
    {fault : Fault} :
    (string text).Faults target fault ↔
      target.Misreads text ∧ .format text target.display = fault ∨
        (string text).Overflows target ∧ .overflow target.display = fault := by
  constructor
  · intro faults
    cases faults with
    | toObject => exact scalar.elim
    | format misreads => exact Or.inl ⟨misreads, rfl⟩
    | overflow overflows => exact Or.inr ⟨overflows, rfl⟩
  · rintro (⟨misreads, rfl⟩ | ⟨overflows, rfl⟩)
    · exact .format misreads
    · exact .overflow overflows

/-- A scalar that is no text becomes another scalar unless it overflows. -/
theorem faults_number_iff {v : Value} {target : ValueType} (scalar : target.IsScalar)
    (noText : ∀ text, v ≠ string text) (noObject : ∀ ref, v ≠ object ref) {fault : Fault} :
    v.Faults target fault ↔ v.Overflows target ∧ .overflow target.display = fault := by
  constructor
  · intro faults
    cases faults with
    | ofObject => exact absurd rfl (noObject _)
    | toObject => exact scalar.elim
    | format => exact absurd rfl (noText _)
    | overflow overflows => exact ⟨overflows, rfl⟩
  · rintro ⟨overflows, rfl⟩
    exact .overflow overflows

theorem toBool_eq_error_iff {v : Value} (nonnull : v ≠ null) {fault : Fault} :
    v.toBool = .error fault ↔ v.Faults .bool fault := by
  have scalar : ValueType.bool.IsScalar := trivial
  cases v with
  | null => exact absurd rfl nonnull
  | bool | int | long | double =>
    refine Iff.trans ?_ (faults_number_iff scalar (by simp) (by simp)).symm
    simp [toBool, Overflows]
  | object ref =>
    rw [faults_object_iff scalar]
    exact Iff.of_eq (Except.error.injEq _ _)
  | string text =>
    rw [faults_string_iff scalar, ValueType.Misreads, ← Text.readBool?_eq_none_iff, toBool]
    cases Text.readBool? text <;> simp [Overflows]

theorem toDouble_eq_error_iff {v : Value} (nonnull : v ≠ null) {fault : Fault} :
    v.toDouble = .error fault ↔ v.Faults .double fault := by
  have scalar : ValueType.double.IsScalar := trivial
  cases v with
  | null => exact absurd rfl nonnull
  | bool | int | long | double =>
    refine Iff.trans ?_ (faults_number_iff scalar (by simp) (by simp)).symm
    simp [toDouble, Overflows]
  | object ref =>
    rw [faults_object_iff scalar]
    exact Iff.of_eq (Except.error.injEq _ _)
  | string text =>
    rw [faults_string_iff scalar, ValueType.Misreads, ← Text.readDouble?_eq_none_iff, toDouble]
    cases Text.readDouble? text <;> simp [Overflows]

theorem toText_eq_error_iff {v : Value} (nonnull : v ≠ null) {fault : Fault} :
    v.toText = .error fault ↔ v.Faults .string fault := by
  have scalar : ValueType.string.IsScalar := trivial
  cases v with
  | null => exact absurd rfl nonnull
  | bool | int | long | double =>
    refine Iff.trans ?_ (faults_number_iff scalar (by simp) (by simp)).symm
    simp [toText, Overflows]
  | object ref =>
    rw [faults_object_iff scalar]
    exact Iff.of_eq (Except.error.injEq _ _)
  | string text =>
    rw [faults_string_iff scalar]
    simp [toText, ValueType.Misreads, Overflows]

theorem toObject_eq_error_iff {v : Value} (nonnull : v ≠ null) {name : String} {fault : Fault} :
    v.toObject name = .error fault ↔ v.Faults (.object name) fault := by
  have only : v.Faults (.object name) fault ↔
      (∀ ref, v = object ref → ref.typeName ≠ name) ∧ v.castFault (.object name) = fault := by
    constructor
    · intro faults
      cases faults with
      | ofObject scalar => exact scalar.elim
      | toObject _ other => exact ⟨other, rfl⟩
      | format misreads => exact misreads.elim
      | overflow overflows => cases v <;> exact overflows.elim
    · rintro ⟨other, rfl⟩
      exact .toObject nonnull other
  rw [only]
  cases v with
  | object ref =>
    rw [toObject]
    by_cases same : ref.typeName = name <;> simp [same]
  | null | bool | int | long | double | string =>
    rw [and_iff_right (by simp)]
    exact Iff.of_eq (Except.error.injEq _ _)

/-- A double that rounds to an integer overflows where that integer is out of
range. -/
theorem overflows_iff_of_round? {x : Binary64} {n : ℤ} (rounded : x.round? = some n)
    (range : ℤ → Prop) :
    (x.isFinite = false ∨ ∃ m, RoundsTo x.toRat m ∧ ¬ range m) ↔ ¬ range n := by
  obtain ⟨finite, rounds⟩ := Binary64.round?_eq_some_iff.mp rounded
  rw [finite, or_iff_right (by simp)]
  constructor
  · rintro ⟨m, other, outside⟩
    rwa [rounds.unique other]
  · exact fun outside => ⟨n, rounds, outside⟩

theorem changeType_long_double_eq_error_iff {x : Binary64} {fault : Fault} :
    (double x).changeType .long = .error fault ↔
      (double x).Overflows .long ∧ .overflow ValueType.long.display = fault := by
  cases rounded : x.round? with
  | none =>
    have infinite := Binary64.round?_eq_none_iff.mp rounded
    rw [(changeType_of_not_isFinite infinite).2, Except.error.injEq,
      and_iff_right (show (double x).Overflows .long from Or.inl infinite)]
  | some n =>
    rw [changeType_long_of_round? rounded, checked_eq_error_iff]
    exact and_congr_left fun _ => (overflows_iff_of_round? rounded fun n => -2 ^ 63 ≤ n ∧ n < 2 ^ 63).symm

theorem changeType_int_double_eq_error_iff {x : Binary64} {fault : Fault} :
    (double x).changeType .int = .error fault ↔
      (double x).Overflows .int ∧ .overflow ValueType.int.display = fault := by
  cases rounded : x.round? with
  | none =>
    have infinite := Binary64.round?_eq_none_iff.mp rounded
    rw [(changeType_of_not_isFinite infinite).1, Except.error.injEq,
      and_iff_right (show (double x).Overflows .int from Or.inl infinite)]
  | some n =>
    rw [changeType_int_of_round? rounded, checked_eq_error_iff]
    exact and_congr_left fun _ => (overflows_iff_of_round? rounded fun n => -2 ^ 31 ≤ n ∧ n < 2 ^ 31).symm

theorem changeType_long_eq_error_iff {v : Value} (nonnull : v ≠ null) {fault : Fault} :
    v.changeType .long = .error fault ↔ v.Faults .long fault := by
  have scalar : ValueType.long.IsScalar := trivial
  cases v with
  | null => exact absurd rfl nonnull
  | bool | int | long =>
    refine Iff.trans ?_ (faults_number_iff scalar (by simp) (by simp)).symm
    simp [changeType, toLong, Overflows]
  | double x =>
    rw [changeType_long_double_eq_error_iff]
    exact (faults_number_iff scalar (by simp) (by simp)).symm
  | object ref =>
    rw [faults_object_iff scalar, changeType_long_eq _ nonnull, map_eq_error_iff]
    exact Iff.of_eq (Except.error.injEq _ _)
  | string text =>
    rw [faults_string_iff scalar, changeType_long_string_eq_error_iff, or_iff_left]
    · rfl
    · exact fun overflow => overflow.1

/-- Numbers that have 32 bits anyhow are narrowed without loss. -/
theorem changeType_int_bool (b : Bool) : ∃ n, (bool b).changeType .int = .ok (.int n) := by
  cases b
  · exact ⟨0, rfl⟩
  · exact ⟨1, rfl⟩

theorem changeType_int_int (n : Int32) : (int n).changeType .int = .ok (.int n) := by
  rw [changeType_int_eq _ (by simp)]
  show int <$> narrow n.toInt64 = _
  rw [int_narrow_eq_ok_iff, Int32.toInt_toInt64]

theorem changeType_int_eq_error_iff {v : Value} (nonnull : v ≠ null) {fault : Fault} :
    v.changeType .int = .error fault ↔ v.Faults .int fault := by
  have scalar : ValueType.int.IsScalar := trivial
  cases v with
  | null => exact absurd rfl nonnull
  | bool b =>
    refine Iff.trans ?_ (faults_number_iff scalar (by simp) (by simp)).symm
    obtain ⟨n, converted⟩ := changeType_int_bool b
    simp [converted, Overflows]
  | int n =>
    refine Iff.trans ?_ (faults_number_iff scalar (by simp) (by simp)).symm
    simp [changeType_int_int, Overflows]
  | long n =>
    refine Iff.trans ?_ (faults_number_iff scalar (by simp) (by simp)).symm
    show int <$> narrow n = .error fault ↔ _
    rw [int_narrow_eq_error_iff, eq_comm (a := fault)]
    rfl
  | double x =>
    rw [changeType_int_double_eq_error_iff]
    exact (faults_number_iff scalar (by simp) (by simp)).symm
  | object ref =>
    rw [faults_object_iff scalar]
    exact Iff.of_eq (Except.error.injEq _ _)
  | string text =>
    rw [faults_string_iff scalar, changeType_int_string_eq_error_iff]
    rfl

/-- Neither null nor the type that takes every value makes a conversion fault. -/
theorem not_faults {v : Value} {target : ValueType} (spared : v = null ∨ target = .any)
    {fault : Fault} : ¬ v.Faults target fault := by
  intro faults
  rcases spared with rfl | rfl
  · cases faults with
    | toObject nonnull => exact nonnull rfl
    | overflow overflows => exact overflows.elim
  · cases faults with
    | ofObject scalar => exact scalar.elim
    | format misreads => exact misreads.elim
    | overflow overflows => cases v <;> exact overflows.elim

/-- Truth values and integers fit every scalar but an integer of 32 bits. -/
theorem not_faults_of_integral {v : Value} {target : ValueType}
    (integral : v.type? ∈ [some .bool, some .int, some .long])
    (wide : target ∈ [.bool, .long, .double, .string]) {fault : Fault} :
    ¬ v.Faults target fault := by
  intro faults
  cases faults with
  | ofObject => simp [type?] at integral
  | toObject => simp at wide
  | format => simp [type?] at integral
  | overflow overflows =>
    simp only [List.mem_cons, List.not_mem_nil, or_false] at wide
    rcases wide with rfl | rfl | rfl | rfl
    · cases v <;> exact overflows.elim
    · cases v <;> first | exact overflows.elim | simp [type?] at integral
    · cases v <;> exact overflows.elim
    · cases v <;> exact overflows.elim

theorem changeType_of_spared {v : Value} {target : ValueType} (spared : v = null ∨ target = .any) :
    v.changeType target = .ok v := by
  rcases spared with rfl | rfl
  · rfl
  · exact changeType_any_eq v

/-- A conversion faults in exactly these ways. -/
theorem changeType_eq_error_iff {v : Value} {target : ValueType} {fault : Fault} :
    v.changeType target = .error fault ↔ v.Faults target fault := by
  by_cases spared : v = null ∨ target = .any
  · rw [changeType_of_spared spared]
    exact iff_of_false (by simp) (not_faults spared)
  obtain ⟨nonnull, other⟩ := not_or.mp spared
  cases target with
  | any => exact absurd rfl other
  | int => exact changeType_int_eq_error_iff nonnull
  | long => exact changeType_long_eq_error_iff nonnull
  | bool =>
    rw [changeType_bool_eq v nonnull, map_eq_error_iff, toBool_eq_error_iff nonnull]
  | double =>
    rw [changeType_double_eq v nonnull, map_eq_error_iff, toDouble_eq_error_iff nonnull]
  | string =>
    rw [changeType_string_eq v nonnull, map_eq_error_iff, toText_eq_error_iff nonnull]
  | object name =>
    rw [changeType_object_eq v nonnull, toObject_eq_error_iff nonnull]

/-! ## What a conversion gives -/

theorem type?_of_map {α : Type} {g : α → Value} {outcome : Except Fault α} {w : Value}
    {type : ValueType} (typed : ∀ a, (g a).type? = some type) (given : g <$> outcome = .ok w) :
    w.type? = some type := by
  cases outcome with
  | error fault => cases given
  | ok a =>
    cases given
    exact typed a

theorem type?_of_toObject {v w : Value} {name : String} (given : v.toObject name = .ok w) :
    w.type? = some (.object name) := by
  cases v with
  | object ref =>
    rw [toObject] at given
    split at given
    · rename_i same
      cases given
      exact congrArg (some ∘ ValueType.object) same
    · cases given
  | null | bool | int | long | double | string => cases given

/-- A value that is converted to a type becomes one of that type. -/
theorem type?_of_changeType {v w : Value} {target : ValueType} (nonnull : v ≠ null)
    (narrow : target ≠ .any) (converted : v.changeType target = .ok w) :
    w.type? = some target := by
  cases target with
  | any => exact absurd rfl narrow
  | bool =>
    rw [changeType_bool_eq v nonnull] at converted
    exact type?_of_map (fun _ => rfl) converted
  | int =>
    rw [changeType_int_eq v nonnull] at converted
    cases whole : v.toLong .int with
    | error fault =>
      rw [whole] at converted
      cases converted
    | ok n =>
      rw [whole] at converted
      exact type?_of_map (fun _ => rfl) converted
  | long =>
    rw [changeType_long_eq v nonnull] at converted
    exact type?_of_map (fun _ => rfl) converted
  | double =>
    rw [changeType_double_eq v nonnull] at converted
    exact type?_of_map (fun _ => rfl) converted
  | string =>
    rw [changeType_string_eq v nonnull] at converted
    exact type?_of_map (fun _ => rfl) converted
  | object name =>
    rw [changeType_object_eq v nonnull] at converted
    exact type?_of_toObject converted

end Value

/-- What the source and the target of a conversion say of its fault. Null and the
type that takes every value never fault. A cast is refused to an object that is to
become a scalar, and to whatever is not an object of the name that the type asks for;
a text is in no correct form where the type cannot read it; a number, or the text of
one, overflows where it is not in the range of the type. There is no other fault, so
that truth values and integers always become any scalar but an integer of 32 bits. -/
theorem fault_is_settled_by_source_and_target (v : Value) (target : ValueType) :
    (v = .null ∨ target = .any → v.changeType target = .ok v) ∧
    (∀ source name, v.changeType target = .error (.invalidCast source name) ↔
      (source = v.label ∧ name = target.display) ∧
        (v.isObject = true ∧ target.IsScalar ∨
          ∃ typeName, target = .object typeName ∧ v ≠ .null ∧
            ∀ ref, v = .object ref → ref.typeName ≠ typeName)) ∧
    (∀ input name, v.changeType target = .error (.format input name) ↔
      (v = .string input ∧ name = target.display) ∧ target.Misreads input) ∧
    (∀ name, v.changeType target = .error (.overflow name) ↔
      name = target.display ∧ v.Overflows target) ∧
    (∀ fault, v.changeType target = .error fault →
      (∃ source name, fault = .invalidCast source name) ∨
        (∃ input name, fault = .format input name) ∨ ∃ name, fault = .overflow name) ∧
    (v.type? ∈ [some .bool, some .int, some .long] →
      target ∈ [.bool, .long, .double, .string] → ∃ w, v.changeType target = .ok w) := by
  simp only [Value.changeType_eq_error_iff]
  refine ⟨Value.changeType_of_spared, fun source name => ⟨?_, ?_⟩, fun input name => ⟨?_, ?_⟩,
    fun name => ⟨?_, ?_⟩, fun fault failed => ?_, fun integral wide => ?_⟩
  · intro faults
    cases faults with
    | ofObject scalar => exact ⟨⟨rfl, rfl⟩, Or.inl ⟨rfl, scalar⟩⟩
    | toObject nonnull other => exact ⟨⟨rfl, rfl⟩, Or.inr ⟨_, rfl, nonnull, other⟩⟩
  · rintro ⟨⟨rfl, rfl⟩, ⟨object, scalar⟩ | ⟨typeName, rfl, nonnull, other⟩⟩
    · cases v with
      | object ref => exact .ofObject scalar
      | _ => cases object
    · exact .toObject nonnull other
  · intro faults
    cases faults with
    | format misreads => exact ⟨⟨rfl, rfl⟩, misreads⟩
  · rintro ⟨⟨rfl, rfl⟩, misreads⟩
    exact .format misreads
  · intro faults
    cases faults with
    | overflow overflows => exact ⟨rfl, overflows⟩
  · rintro ⟨rfl, overflows⟩
    exact .overflow overflows
  · cases failed with
    | ofObject | toObject => exact Or.inl ⟨_, _, rfl⟩
    | format => exact Or.inr (Or.inl ⟨_, _, rfl⟩)
    | overflow => exact Or.inr (Or.inr ⟨_, rfl⟩)
  · cases converted : v.changeType target with
    | ok w => exact ⟨w, rfl⟩
    | error fault =>
      exact absurd (Value.changeType_eq_error_iff.mp converted)
        (Value.not_faults_of_integral integral wide)

end Membrane
