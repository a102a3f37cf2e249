import Membrane.Options.Document
import Membrane.Proofs.DocumentKeys

/-!
# Where options come from

Options that are read from a document depend on two of its keys. The flag at the top level
is looked at in any case, and must be a boolean; but where the document has an entry
`bridge`, the options are those that this entry gives on its own, and a flag that it leaves
out is not set. Nothing else in the document shows, wherever it stands
(`options_come_from_two_keys`). This holds in any format whose tables have each of their
keys once, as those of TOML have (`keyed_toml`).
-/

namespace Membrane

open Toml

/-! ## Entries that are the same but for other keys -/

namespace Toml

/-- Two tables hold the same under some keys, in whatever order. What they hold under other
keys is left open. -/
def Entries.AgreeOn (keys : List String) (entries entries' : Entries) : Prop :=
  (entries.filter fun entry => entry.1 ∈ keys).Perm (entries'.filter fun entry => entry.1 ∈ keys)

theorem Entries.AgreeOn.get?_eq {keys : List String} {entries entries' : Entries} {key : String}
    (agree : AgreeOn keys entries entries') (keyed : entries.Keyed) (keyed' : entries'.Keyed)
    (among : key ∈ keys) : entries'.get? key = entries.get? key := by
  ext item
  have kept := agree.mem_iff (a := (key, item))
  simp only [List.mem_filter, among, decide_true, and_true] at kept
  rw [keyed.get?_eq_some_iff, keyed'.get?_eq_some_iff, kept]

end Toml

namespace Options

/-! ## The flag of a table -/

/-- The flag that a table sets: what it holds under the key of the flag, or none where it
has no such key. -/
inductive SetIn (entries : Entries) : Bool → Prop where
  | given {flag : Bool} (here : entries.get? flagKey = some (.boolean flag)) : SetIn entries flag
  | missing (absent : entries.get? flagKey = none) : SetIn entries false

/-- A table holds something other than a boolean under the key of the flag. -/
def Mistyped (entries : Entries) : Prop :=
  ∃ item, entries.get? flagKey = some item ∧ ∀ flag, item ≠ .boolean flag

variable {entries entries' : Entries} {item item' : Item} {flag : Bool}

theorem ofEntries_of_setIn (set : SetIn entries flag) : ofEntries entries = .ok ⟨flag⟩ := by
  cases set with
  | given here =>
    rw [ofEntries, here]
    rfl
  | missing absent =>
    rw [ofEntries, absent]
    rfl

theorem ofFlag_of_ne (other : ∀ flag, item ≠ .boolean flag) : ofFlag item = .error .parse := by
  cases item with
  | boolean flag => exact absurd rfl (other flag)
  | string | integer | float | datetime | array | table => rfl

theorem ofEntries_of_mistyped (mistyped : Mistyped entries) :
    ofEntries entries = .error .parse := by
  rcases mistyped with ⟨item, here, other⟩
  rw [ofEntries, here]
  exact ofFlag_of_ne other

/-- A table sets a flag exactly if it does not hold anything else in its place. -/
theorem exists_setIn_iff : (∃ flag, SetIn entries flag) ↔ ¬ Mistyped entries := by
  constructor
  · rintro ⟨flag, set⟩ mistyped
    cases (ofEntries_of_setIn set).symm.trans (ofEntries_of_mistyped mistyped)
  · intro proper
    cases found : entries.get? flagKey with
    | none => exact ⟨false, .missing found⟩
    | some item =>
      by_cases boolean : ∃ flag, item = .boolean flag
      · rcases boolean with ⟨flag, rfl⟩
        exact ⟨flag, .given found⟩
      · exact absurd ⟨item, found, not_exists.mp boolean⟩ proper

/-! ## The flag of an entry -/

/-- The flag that an item gives on its own: as a table, or as another item of which the
format says that it gives one. -/
inductive Sets (format : Format) : Item → Bool → Prop where
  | table {origin : Origin} {entries : Entries} {flag : Bool} (set : SetIn entries flag) :
    Sets format (.table origin entries) flag
  | bare {item : Item} {flag : Bool} (other : ∀ origin entries, item ≠ .table origin entries)
    (given : format.bareFlag? item = some flag) : Sets format item flag

variable {format : Format}

/-- An item other than a table gives what the format says. -/
theorem Format.ofItem_of_ne_table (other : ∀ origin entries, item ≠ .table origin entries) :
    format.ofItem item = match format.bareFlag? item with
      | some flag => .ok ⟨flag⟩
      | none => .error .parse := by
  cases item with
  | table origin entries => exact absurd rfl (other origin entries)
  | string | integer | float | boolean | datetime | array => rfl

theorem Format.ofItem_of_sets (sets : Sets format item flag) :
    format.ofItem item = .ok ⟨flag⟩ := by
  cases sets with
  | table set => exact ofEntries_of_setIn set
  | bare other given => rw [ofItem_of_ne_table other, given]

/-- A table gives a flag exactly if it does not hold anything else in its place. -/
theorem exists_sets_table_iff {origin : Origin} :
    (∃ flag, Sets format (.table origin entries) flag) ↔ ¬ Mistyped entries := by
  rw [← exists_setIn_iff]
  constructor
  · rintro ⟨flag, sets⟩
    cases sets with
    | table set => exact ⟨flag, set⟩
    | bare other => exact absurd rfl (other origin entries)
  · rintro ⟨flag, set⟩
    exact ⟨flag, .table set⟩

theorem Format.ofItem_of_not_sets (unset : ¬ ∃ flag, Sets format item flag) :
    format.ofItem item = .error .parse := by
  by_cases table : ∃ origin entries, item = .table origin entries
  · rcases table with ⟨origin, entries, rfl⟩
    rw [exists_sets_table_iff, not_not] at unset
    exact ofEntries_of_mistyped unset
  · simp only [not_exists] at table
    cases given : format.bareFlag? item with
    | none => rw [ofItem_of_ne_table table, given]
    | some flag => exact absurd ⟨flag, .bare table given⟩ unset

/-! ## The flag of a document -/

theorem Format.ofDocument_of_mistyped (mistyped : Mistyped entries) :
    format.ofDocument entries = .error .parse := by
  rw [Format.ofDocument, ofEntries_of_mistyped mistyped]
  rfl

/-- An entry `bridge` gives the options alone, once the flag beside it is in order. -/
theorem Format.ofDocument_of_bridge (proper : ¬ Mistyped entries)
    (here : entries.get? bridgeKey = some item) :
    format.ofDocument entries = format.ofItem item := by
  rcases exists_setIn_iff.mpr proper with ⟨flag, set⟩
  rw [Format.ofDocument, ofEntries_of_setIn set, here]
  rfl

theorem Format.ofDocument_of_topLevel (absent : entries.get? bridgeKey = none)
    (set : SetIn entries flag) : format.ofDocument entries = .ok ⟨flag⟩ := by
  rw [Format.ofDocument, ofEntries_of_setIn set, absent]
  rfl

/-- A document gives no options exactly if the flag at the top level is no boolean, or an
entry `bridge` gives none. -/
theorem Format.ofDocument_eq_error_iff :
    format.ofDocument entries = .error .parse ↔ Mistyped entries ∨
      ∃ item, entries.get? bridgeKey = some item ∧ ¬ ∃ flag, Sets format item flag := by
  by_cases mistyped : Mistyped entries
  · exact iff_of_true (ofDocument_of_mistyped mistyped) (Or.inl mistyped)
  rw [or_iff_right mistyped]
  cases found : entries.get? bridgeKey with
  | none =>
    rcases exists_setIn_iff.mpr mistyped with ⟨flag, set⟩
    rw [ofDocument_of_topLevel found set]
    simp
  | some item =>
    rw [ofDocument_of_bridge mistyped found]
    simp only [Option.some.injEq, exists_eq_left']
    constructor
    · rintro refused ⟨flag, sets⟩
      cases (ofItem_of_sets sets).symm.trans refused
    · exact ofItem_of_not_sets

/-! ## Documents that differ elsewhere -/

/-- Two entries `bridge` are the same, or tables that hold the same under the key of the
flag. -/
inductive BridgesAlike : Item → Item → Prop where
  | refl (item : Item) : BridgesAlike item item
  | tables {origin origin' : Origin} {inner inner' : Entries}
    (agree : Entries.AgreeOn [flagKey] inner inner') :
    BridgesAlike (.table origin inner) (.table origin' inner')

/-- Two documents differ in nothing that options are read from: in no entry of the two
keys; or, where both have an entry `bridge`, neither in what this entry gives nor in whether
the flag beside it is in order, so that this flag may be set in the one and not in the
other. -/
inductive Undisturbed (entries entries' : Entries) : Prop where
  | others (agree : Entries.AgreeOn [flagKey, bridgeKey] entries entries')
  | bridged {item item' : Item} (here : entries.get? bridgeKey = some item)
    (here' : entries'.get? bridgeKey = some item') (alike : BridgesAlike item item')
    (order : Mistyped entries' ↔ Mistyped entries)

theorem ofEntries_congr (same : entries'.get? flagKey = entries.get? flagKey) :
    ofEntries entries' = ofEntries entries := by
  rw [ofEntries, ofEntries, same]

theorem BridgesAlike.ofItem_eq (alike : BridgesAlike item item') (keyed : item.Keyed)
    (keyed' : item'.Keyed) : format.ofItem item' = format.ofItem item := by
  cases alike with
  | refl => rfl
  | tables agree => exact ofEntries_congr (agree.get?_eq keyed.inner keyed'.inner (by simp))

theorem Undisturbed.ofDocument_eq (undisturbed : Undisturbed entries entries')
    (keyed : entries.Keyed) (keyed' : entries'.Keyed) :
    format.ofDocument entries' = format.ofDocument entries := by
  cases undisturbed with
  | others agree =>
    have flag : entries'.get? flagKey = entries.get? flagKey :=
      agree.get?_eq keyed keyed' (by simp)
    have bridge : entries'.get? bridgeKey = entries.get? bridgeKey :=
      agree.get?_eq keyed keyed' (by simp)
    rw [Format.ofDocument, Format.ofDocument, ofEntries_congr flag, bridge]
  | bridged here here' alike order =>
    by_cases mistyped : Mistyped entries
    · rw [Format.ofDocument_of_mistyped mistyped,
        Format.ofDocument_of_mistyped (order.mpr mistyped)]
    · rw [Format.ofDocument_of_bridge mistyped here,
        Format.ofDocument_of_bridge (mt order.mp mistyped) here']
      exact alike.ofItem_eq (keyed.of_get? here) (keyed'.of_get? here')

/-! ## Texts -/

/-- In every document of a format, each table has each of its keys once. -/
def Format.Keyed (format : Format) : Prop :=
  ∀ text entries, format.parse? text = some entries → entries.Keyed

/-- So it is in TOML. -/
theorem keyed_toml : toml.Keyed := by
  intro text entries parsed
  exact keyed_of_read? (Option.filter_eq_some_iff.mp parsed).1

theorem Format.read?_eq {text : String} (parsed : format.parse? text = some entries) :
    format.read? text = format.ofDocument entries := by
  rw [Format.read?, parsed]

/-- How the options that are read from a text depend on the entries that it is parsed
into. -/
structure FromTwoKeys (format : Format) (text : String) (entries : Entries) : Prop where
  /-- There are none exactly if the flag at the top level is no boolean, whatever else is
  there, or an entry `bridge` gives none. -/
  fails : format.read? text = .error .parse ↔ Mistyped entries ∨
    ∃ item, entries.get? bridgeKey = some item ∧ ¬ ∃ flag, Sets format item flag
  /-- An entry `bridge` that is a table gives none exactly if its own flag is no boolean. -/
  table : ∀ origin inner, entries.get? bridgeKey = some (.table origin inner) →
    ((¬ ∃ flag, Sets format (.table origin inner) flag) ↔ Mistyped inner)
  /-- An entry `bridge` gives the options alone, also where the top level sets the flag and
  the entry does not. -/
  bridge : ∀ item flag, ¬ Mistyped entries → entries.get? bridgeKey = some item →
    Sets format item flag → format.read? text = .ok ⟨flag⟩
  /-- Without such an entry the top level does. -/
  topLevel : ∀ flag, entries.get? bridgeKey = none → SetIn entries flag →
    format.read? text = .ok ⟨flag⟩
  /-- A document that differs in nothing else gives the same options, or none either. -/
  undisturbed : ∀ text' entries', format.parse? text' = some entries' →
    Undisturbed entries entries' → format.read? text' = format.read? text

/-- Options that are read from a document depend on the flag at its top level and on its
entry `bridge` only, and the entry overrides the flag as a whole. How texts are parsed, and
what an entry gives that is no table, is up to the format. -/
theorem options_come_from_two_keys {format : Format} (keyed : format.Keyed) {text : String}
    {entries : Entries} (parsed : format.parse? text = some entries) :
    FromTwoKeys format text entries := by
  constructor
  case fails =>
    rw [Format.read?_eq parsed]
    exact Format.ofDocument_eq_error_iff
  case table =>
    intro origin inner _
    rw [exists_sets_table_iff, not_not]
  case bridge =>
    intro item flag proper here sets
    rw [Format.read?_eq parsed, Format.ofDocument_of_bridge proper here,
      Format.ofItem_of_sets sets]
  case topLevel =>
    intro flag absent set
    rw [Format.read?_eq parsed, Format.ofDocument_of_topLevel absent set]
  case undisturbed =>
    intro text' entries' parsed' undisturbed
    rw [Format.read?_eq parsed, Format.read?_eq parsed']
    exact undisturbed.ofDocument_eq (keyed text entries parsed) (keyed text' entries' parsed')

/-- In TOML, a table `bridge` that leaves the flag out overrides the flag of the top level,
and so it does where the top level has none and the table is made by a header below it. An
array `bridge` that gives a flag is of no use where the flag of the top level is no
boolean. -/
theorem bridge_overrides_as_a_whole :
    let text := "reject_unknown_properties = true\n[bridge]\nlimit = 3\n"
    let entries : Entries := [("reject_unknown_properties", .boolean true),
      ("bridge", .table .header [("limit", .integer (some 3))])]
    let text' := "# no flag\n[bridge.inner]\nreject_unknown_properties = 1\n"
    let entries' : Entries := [("bridge", .table .parent
      [("inner", .table .header [("reject_unknown_properties", .integer (some 1))])])]
    let spoilt := "bridge = [true]\nreject_unknown_properties = 1\n"
    let spoiltEntries : Entries := [("bridge", .array false [.boolean true]),
      ("reject_unknown_properties", .integer (some 1))]
    toml.Keyed ∧ toml.parse? text = some entries ∧ toml.parse? text' = some entries' ∧
      toml.parse? spoilt = some spoiltEntries ∧ read? text = .ok ⟨false⟩ ∧
      read? text' = .ok ⟨false⟩ ∧ read? spoilt = .error .parse := by
  intro text entries text' entries' spoilt spoiltEntries
  have parsed : toml.parse? text = some entries := by decide +kernel
  have parsed' : toml.parse? text' = some entries' := by decide +kernel
  have parsedSpoilt : toml.parse? spoilt = some spoiltEntries := by decide +kernel
  have depends := options_come_from_two_keys keyed_toml parsed
  have proper : ¬ Mistyped entries := exists_setIn_iff.mp ⟨true, .given rfl⟩
  have proper' : ¬ Mistyped entries' := exists_setIn_iff.mp ⟨false, .missing rfl⟩
  have given := depends.bridge _ false proper rfl (.table (.missing rfl))
  have undisturbed : Undisturbed entries entries' :=
    .bridged rfl rfl (.tables (.refl _)) (iff_of_false proper' proper)
  have given' := (depends.undisturbed _ _ parsed' undisturbed).trans given
  have mistyped : Mistyped spoiltEntries := ⟨.integer (some 1), rfl, by simp⟩
  have refused := (options_come_from_two_keys keyed_toml parsedSpoilt).fails.mpr (Or.inl mistyped)
  exact ⟨keyed_toml, parsed, parsed', parsedSpoilt, given, given', refused⟩

end Options

end Membrane
