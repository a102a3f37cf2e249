import Mathlib.Data.List.Nodup
import Membrane.Toml.Reader

/-!
# The keys of documents

In a document that is read, every table has each of its keys once, at whatever depth: a
key is assigned only where it is new, and a header only opens or extends what is there
(`keyed_of_read?`). So the order of the entries of a table does not matter to who looks a
key up (`get?_eq_some_iff`).
-/

namespace Membrane.Toml

/-- A value in which every table has each of its keys once. -/
inductive Item.Keyed : Item → Prop where
  | string (text : String) : Keyed (.string text)
  | integer (n : Option Int) : Keyed (.integer n)
  | float (x : Option Number.Binary64) : Keyed (.float x)
  | boolean (b : Bool) : Keyed (.boolean b)
  | datetime (text : String) : Keyed (.datetime text)
  | array {extensible : Bool} {items : List Item} (each : ∀ item ∈ items, Keyed item) :
    Keyed (.array extensible items)
  | table {origin : Origin} {entries : List (String × Item)}
    (distinct : (entries.map Prod.fst).Nodup) (each : ∀ entry ∈ entries, Keyed entry.2) :
    Keyed (.table origin entries)

namespace Entries

/-- The entries of a table that has each of its keys once, as have the tables in it. -/
structure Keyed (entries : Entries) : Prop where
  distinct : (entries.map Prod.fst).Nodup
  each : ∀ entry ∈ entries, entry.2.Keyed

variable {entries : Entries} {key name : String} {item : Item}

theorem mem_of_get? (here : entries.get? key = some item) : (key, item) ∈ entries := by
  rcases List.lookup_eq_some_iff.mp here with ⟨before, after, rfl, _⟩
  exact List.mem_append_right _ List.mem_cons_self

theorem not_mem_keys_of_get?_eq_none (missing : entries.get? name = none) :
    name ∉ entries.map Prod.fst := by
  intro mem
  rcases List.mem_map.mp mem with ⟨entry, there, rfl⟩
  have absent := List.lookup_eq_none_iff.mp missing entry there
  simp at absent

theorem keyed_nil : Keyed [] :=
  ⟨List.nodup_nil, List.forall_mem_nil _⟩

/-- What stands under a key of such a table is keyed as well. -/
theorem Keyed.of_get? (keyed : entries.Keyed) (here : entries.get? key = some item) :
    item.Keyed :=
  keyed.each _ (mem_of_get? here)

/-- A new key may be added. -/
theorem Keyed.append (keyed : entries.Keyed) (missing : entries.get? name = none)
    (value : item.Keyed) : Keyed (entries ++ [(name, item)]) := by
  constructor
  case distinct =>
    rw [List.map_append, List.nodup_append']
    refine ⟨keyed.distinct, by simp, ?_⟩
    simpa using not_mem_keys_of_get?_eq_none missing
  case each =>
    intro entry mem
    rcases List.mem_append.mp mem with old | new
    · exact keyed.each entry old
    · rw [List.mem_singleton.mp new]
      exact value

/-- Another value under a key leaves the keys as they are. -/
theorem map_fst_replace : (entries.replace key item).map Prod.fst = entries.map Prod.fst := by
  rw [replace, List.map_map]
  apply List.map_congr_left
  rintro ⟨first, value⟩ _
  by_cases same : first = key <;> simp [same]

theorem Keyed.replace (keyed : entries.Keyed) (value : item.Keyed) :
    (entries.replace key item).Keyed := by
  constructor
  case distinct =>
    rw [map_fst_replace]
    exact keyed.distinct
  case each =>
    intro entry mem
    rcases List.mem_map.mp mem with ⟨⟨first, old⟩, there, rfl⟩
    by_cases same : first = key
    · simp only [same, if_true]
      exact value
    · simp only [same, if_false]
      exact keyed.each _ there

/-- In such a table a key has the one value that stands there with it. -/
theorem Keyed.get?_eq_some_iff (keyed : entries.Keyed) :
    entries.get? key = some item ↔ (key, item) ∈ entries := by
  constructor
  · exact mem_of_get?
  · intro mem
    rcases List.append_of_mem mem with ⟨before, after, rfl⟩
    have distinct := keyed.distinct
    rw [List.map_append, List.nodup_append] at distinct
    refine List.lookup_eq_some_iff.mpr ⟨before, after, rfl, ?_⟩
    intro entry there
    rw [bne_iff_ne]
    exact (distinct.2.2 _ (List.mem_map_of_mem there) key (by simp)).symm

end Entries

/-! ## Changes of tables -/

section Changes

variable {origin origin' : Origin} {entries entries' : Entries} {path : List String}
  {name : String} {item : Item}

theorem Item.Keyed.inner (keyed : (Item.table origin entries).Keyed) : Entries.Keyed entries := by
  cases keyed with
  | table distinct each => exact ⟨distinct, each⟩

theorem Entries.Keyed.table (keyed : entries.Keyed) (origin : Origin) :
    (Item.table origin entries).Keyed :=
  .table keyed.distinct keyed.each

theorem keyed_emptyTable (origin : Origin) : (Item.table origin []).Keyed :=
  Entries.keyed_nil.table origin

theorem Item.Keyed.elements {extensible : Bool} {items : List Item}
    (keyed : (Item.array extensible items).Keyed) : ∀ item ∈ items, item.Keyed := by
  cases keyed with
  | array each => exact each

theorem keyed_replaceLast {items : List Item} (each : ∀ other ∈ items, other.Keyed)
    (last : item.Keyed) : ∀ other ∈ replaceLast items item, other.Keyed := by
  intro other mem
  rcases List.mem_append.mp mem with early | added
  · exact each other (List.dropLast_subset _ early)
  · rw [List.mem_singleton.mp added]
    exact last

/-- Where the first key of a path leads, and what becomes of a table once what is there has
been changed: a table that is missing is made, one that stands there is entered unless it is
closed, and an array stands for its last table. -/
inductive Enters (dotted : Bool) (key : String) (entries : Entries) :
    Origin → Entries → Origin → Entries → Entries → Prop where
  | made {origin : Origin} {inner : Entries} (missing : entries.get? key = none) :
    Enters dotted key entries (if dotted then .dotted else .parent) [] origin inner
      (entries ++ [(key, .table origin inner)])
  | table {there origin : Origin} {found inner : Entries}
    (here : entries.get? key = some (.table there found))
    (enterable : ¬ (there = .inline ∨ (dotted = true ∧ there = .header))) :
    Enters dotted key entries there found origin inner
      (entries.replace key (.table origin inner))
  | last {there origin : Origin} {found inner : Entries} {items : List Item}
    (here : entries.get? key = some (.array true items))
    (last : items.getLast? = some (.table there found)) :
    Enters dotted key entries there found origin inner
      (entries.replace key (.array true (replaceLast items (.table origin inner))))

theorem descend_cons_eq_some_iff {dotted : Bool} {key : String}
    {change : Origin → Entries → Option (Origin × Entries)} :
    descend dotted change (key :: path) origin entries = some (origin', entries') ↔
      origin' = origin ∧ ∃ there found made inner,
        descend dotted change path there found = some (made, inner) ∧
          Enters dotted key entries there found made inner entries' := by
  constructor
  · intro descended
    unfold descend at descended
    split at descended
    case h_1 missing =>
      rcases Option.bind_eq_some_iff.mp descended with ⟨⟨made, inner⟩, changed, same⟩
      cases same
      exact ⟨rfl, _, _, made, inner, changed, .made missing⟩
    case h_2 there found here =>
      rcases Option.ite_none_left_eq_some.mp descended with ⟨enterable, descended⟩
      rcases Option.bind_eq_some_iff.mp descended with ⟨⟨made, inner⟩, changed, same⟩
      cases same
      exact ⟨rfl, there, found, made, inner, changed, .table here enterable⟩
    case h_3 items here =>
      split at descended
      case h_1 there found last =>
        rcases Option.bind_eq_some_iff.mp descended with ⟨⟨made, inner⟩, changed, same⟩
        cases same
        exact ⟨rfl, there, found, made, inner, changed, .last here last⟩
      case h_2 => cases descended
    case h_4 => cases descended
  · rintro ⟨rfl, there, found, made, inner, changed, enters⟩
    cases enters with
    | made missing => simp [descend, missing, changed]
    | table here enterable => simp [descend, here, enterable, changed]
    | last here last => simp [descend, here, last, changed]

section Enters

variable {dotted : Bool} {key : String} {there made : Origin} {found inner : Entries}

theorem Enters.keyed_found (enters : Enters dotted key entries there found made inner entries')
    (keyed : entries.Keyed) : found.Keyed := by
  cases enters with
  | made => exact Entries.keyed_nil
  | table here => exact (keyed.of_get? here).inner
  | last here last => exact ((keyed.of_get? here).elements _ (List.mem_of_getLast? last)).inner

theorem Enters.keyed (enters : Enters dotted key entries there found made inner entries')
    (keyed : entries.Keyed) (innerKeyed : inner.Keyed) : entries'.Keyed := by
  have value := innerKeyed.table made
  cases enters with
  | made missing => exact keyed.append missing value
  | table => exact keyed.replace value
  | last here =>
    exact keyed.replace (.array (keyed_replaceLast (keyed.of_get? here).elements value))

end Enters

/-- A change of a table keeps its keys distinct. -/
def KeepsKeyed (change : Origin → Entries → Option (Origin × Entries)) : Prop :=
  ∀ origin entries origin' entries', entries.Keyed →
    change origin entries = some (origin', entries') → entries'.Keyed

/-- So does the change of a table at the end of a path, on which tables may be made. -/
theorem KeepsKeyed.descend {change : Origin → Entries → Option (Origin × Entries)}
    (keeps : KeepsKeyed change) (dotted : Bool) (path : List String) :
    KeepsKeyed (descend dotted change path) := by
  induction path with
  | nil => exact keeps
  | cons key path inductionHypothesis =>
    intro origin entries origin' entries' keyed descended
    rcases descend_cons_eq_some_iff.mp descended with
      ⟨_, there, found, made, inner, changed, enters⟩
    exact enters.keyed keyed
      (inductionHypothesis _ _ _ _ (enters.keyed_found keyed) changed)

/-- A key is assigned where it is new. -/
theorem keepsKeyed_assign (path : List String) (name : String) (value : item.Keyed) :
    KeepsKeyed (assign path name item) := by
  refine KeepsKeyed.descend ?_ true path
  intro origin entries origin' entries' keyed added
  simp only [Option.ite_none_left_eq_some] at added
  rcases added with ⟨_, missing, same⟩
  cases same
  exact keyed.append (Option.not_isSome_iff_eq_none.mp missing) value

theorem KeepsKeyed.of_map_descend {change : Origin → Entries → Option (Origin × Entries)}
    (keeps : KeepsKeyed change) {dotted : Bool} (keyed : entries.Keyed)
    (changed : (Toml.descend dotted change path origin entries).map (·.2) = some entries') :
    entries'.Keyed := by
  rcases Option.map_eq_some_iff.mp changed with ⟨⟨_, _⟩, descended, rfl⟩
  exact keeps.descend dotted path _ _ _ _ keyed descended

/-- A header opens a new table, or one that other headers have made on their way. -/
theorem keyed_openTable (keyed : entries.Keyed)
    (opened : openTable path name entries = some entries') : entries'.Keyed := by
  refine KeepsKeyed.of_map_descend ?_ keyed opened
  intro origin table origin' table' keyed changed
  dsimp only at changed
  split at changed
  case h_1 missing =>
    cases changed
    exact keyed.append missing (keyed_emptyTable .header)
  case h_2 inner found =>
    cases changed
    exact keyed.replace ((keyed.of_get? found).inner.table .header)
  case h_3 => cases changed

/-- A header in double brackets adds a table to its array. -/
theorem keyed_openElement (keyed : entries.Keyed)
    (opened : openElement path name entries = some entries') : entries'.Keyed := by
  have added {items : List Item} (each : ∀ item ∈ items, item.Keyed) :
      ∀ item ∈ items ++ [.table .header []], item.Keyed := by
    intro item mem
    rcases List.mem_append.mp mem with old | new
    · exact each item old
    · rw [List.mem_singleton.mp new]
      exact keyed_emptyTable .header
  refine KeepsKeyed.of_map_descend ?_ keyed opened
  intro origin table origin' table' keyed changed
  dsimp only at changed
  split at changed
  case h_1 missing =>
    cases changed
    exact keyed.append missing (.array (added (List.forall_mem_nil _)))
  case h_2 items found =>
    cases changed
    exact keyed.replace (.array (added (keyed.of_get? found).elements))
  case h_3 => cases changed

theorem keyed_assignIn {location : List String} (keyed : entries.Keyed) (value : item.Keyed)
    (assigned : assignIn location path name item entries = some entries') : entries'.Keyed :=
  (keepsKeyed_assign path name value).of_map_descend keyed assigned

end Changes

/-! ## Reading -/

section Reading

variable {cs rest : List Char} {item : Item}

theorem keyed_of_readInteger? {negative : Bool} (read : readInteger? negative cs = some item) :
    item.Keyed := by
  simp only [readInteger?, Option.ite_none_left_eq_some] at read
  have digits := read.2
  split at digits
  case h_1 | h_2 =>
    rcases Option.bind_eq_some_iff.mp digits with ⟨_, _, same⟩
    cases same
    exact .integer _
  case h_3 => cases digits

theorem keyed_of_readFloat? {negative : Bool} (read : readFloat? negative cs = some item) :
    item.Keyed := by
  rcases Option.bind_eq_some_iff.mp read with ⟨plain, _, shaped⟩
  rcases Option.bind_eq_some_iff.mp (Option.ite_none_left_eq_some.mp shaped).2 with ⟨_, _, same⟩
  cases same
  exact .float _

theorem keyed_of_readUnsigned? {negative : Bool} (read : readUnsigned? negative cs = some item) :
    item.Keyed := by
  rw [readUnsigned?] at read
  split_ifs at read
  · cases read
    exact .float _
  · cases read
    exact .float _
  · exact keyed_of_readFloat? read
  · exact keyed_of_readInteger? read

theorem keyed_of_readBased? {base : Nat} (read : readBased? base cs = some item) :
    item.Keyed := by
  rcases Option.bind_eq_some_iff.mp read with ⟨digits, _, shaped⟩
  cases (Option.ite_none_right_eq_some.mp shaped).2
  exact .integer _

/-- Scalars have no keys. -/
theorem keyed_of_readScalar? (read : readScalar? cs = some item) : item.Keyed := by
  rw [readScalar?] at read
  split_ifs at read
  · cases read
    exact .boolean true
  · cases read
    exact .boolean false
  · cases read
    exact .datetime _
  · unfold readNumber? at read
    split at read
    case h_1 | h_2 | h_3 => exact keyed_of_readBased? read
    case h_4 | h_5 | h_6 => exact keyed_of_readUnsigned? read

/-- What reading in some number of steps gives. -/
structure ReadsKeyed (fuel : Nat) : Prop where
  value : ∀ {room cs item rest}, readValue? fuel room cs = some (item, rest) → item.Keyed
  items : ∀ {room cs items rest}, readItems? fuel room cs = some (items, rest) →
    ∀ item ∈ items, item.Keyed
  entries : ∀ {room entries cs entries' rest}, Entries.Keyed entries →
    readEntries? fuel room entries cs = some (entries', rest) → Entries.Keyed entries'

theorem ReadsKeyed.readValue? {fuel room : Nat} (inner : ReadsKeyed fuel)
    (read : readValue? (fuel + 1) room cs = some (item, rest)) : item.Keyed := by
  unfold Toml.readValue? at read
  split at read
  case h_1 | h_2 | h_3 | h_4 =>
    rcases Option.map_eq_some_iff.mp read with ⟨⟨text, _⟩, _, same⟩
    cases same
    exact .string text
  case h_5 =>
    cases room with
    | zero => cases read
    | succ room =>
      rcases Option.map_eq_some_iff.mp read with ⟨⟨items, _⟩, items_eq, same⟩
      cases same
      exact .array (inner.items items_eq)
  case h_6 =>
    cases room with
    | zero => cases read
    | succ room =>
      rcases Option.map_eq_some_iff.mp read with ⟨⟨entries, _⟩, entries_eq, same⟩
      cases same
      exact (inner.entries Entries.keyed_nil entries_eq).table .inline
  case h_7 =>
    rcases Option.map_eq_some_iff.mp read with ⟨scalar, scalar_eq, same⟩
    cases same
    exact keyed_of_readScalar? scalar_eq

theorem ReadsKeyed.readItems? {fuel room : Nat} {items : List Item} (inner : ReadsKeyed fuel)
    (read : readItems? (fuel + 1) room cs = some (items, rest)) :
    ∀ item ∈ items, item.Keyed := by
  rw [Toml.readItems?] at read
  rcases Option.bind_eq_some_iff.mp read with ⟨start, _, read⟩
  split at read
  · cases read
    exact List.forall_mem_nil _
  · rcases Option.bind_eq_some_iff.mp read with ⟨⟨first, behind⟩, first_eq, read⟩
    have firstKeyed := inner.value first_eq
    rcases Option.bind_eq_some_iff.mp read with ⟨next, _, read⟩
    split at read
    · rcases Option.bind_eq_some_iff.mp read with ⟨⟨more, _⟩, more_eq, same⟩
      cases same
      exact List.forall_mem_cons.mpr ⟨firstKeyed, inner.items more_eq⟩
    · cases read
      simpa using firstKeyed
    · cases read

theorem ReadsKeyed.readEntries? {fuel room : Nat} {entries entries' : Entries}
    (inner : ReadsKeyed fuel) (keyed : entries.Keyed)
    (read : readEntries? (fuel + 1) room entries cs = some (entries', rest)) :
    entries'.Keyed := by
  rw [Toml.readEntries?] at read
  rcases Option.bind_eq_some_iff.mp read with ⟨start, _, read⟩
  split at read
  · cases read
    exact keyed
  · simp only [Option.bind_eq_bind, Option.bind_eq_some_iff] at read
    rcases read with ⟨⟨path, name, afterKey⟩, _, afterBlank, _, afterSign, _, valueStart, _,
      ⟨value, behind⟩, value_eq, ⟨_, assigned⟩, assigned_eq, next, _, read⟩
    have assignedKeyed :=
      keepsKeyed_assign path name (inner.value value_eq) _ _ _ _ keyed assigned_eq
    split at read
    · exact inner.entries assignedKeyed read
    · cases read
      exact assignedKeyed
    · cases read

theorem readsKeyed (fuel : Nat) : ReadsKeyed fuel := by
  induction fuel with
  | zero =>
    constructor
    · intro room cs item rest read
      simp [Toml.readValue?] at read
    · intro room cs items rest read
      simp [Toml.readItems?] at read
    · intro room entries cs entries' rest keyed read
      simp [Toml.readEntries?] at read
  | succ fuel inner => exact ⟨inner.readValue?, inner.readItems?, inner.readEntries?⟩

theorem keyed_of_readEntryLine? {location : List String} {entries entries' : Entries}
    (keyed : entries.Keyed) (read : readEntryLine? location entries cs = some (entries', rest)) :
    entries'.Keyed := by
  simp only [readEntryLine?, Option.bind_eq_bind, Option.bind_eq_some_iff] at read
  rcases read with ⟨⟨path, name, afterKey⟩, _, afterSign, _, ⟨value, behind⟩, value_eq, assigned,
    assigned_eq, afterLine, _, same⟩
  cases same
  exact keyed_assignIn keyed ((readsKeyed _).value value_eq) assigned_eq

theorem keyed_of_readDocument? {fuel : Nat} {location : List String} {entries entries' : Entries}
    (keyed : entries.Keyed) (read : readDocument? fuel location entries cs = some entries') :
    entries'.Keyed := by
  induction fuel generalizing location entries cs with
  | zero => simp [readDocument?] at read
  | succ fuel inductionHypothesis =>
    rw [readDocument?] at read
    rcases Option.bind_eq_some_iff.mp read with ⟨start, _, read⟩
    split at read
    · cases read
      exact keyed
    · simp only [Option.bind_eq_bind, Option.bind_eq_some_iff] at read
      rcases read with ⟨⟨path, name, rest⟩, _, opened, opened_eq, read⟩
      exact inductionHypothesis (keyed_openElement keyed opened_eq) read
    · simp only [Option.bind_eq_bind, Option.bind_eq_some_iff] at read
      rcases read with ⟨⟨path, name, rest⟩, _, opened, opened_eq, read⟩
      exact inductionHypothesis (keyed_openTable keyed opened_eq) read
    · rcases Option.bind_eq_some_iff.mp read with ⟨⟨assigned, rest⟩, assigned_eq, read⟩
      exact inductionHypothesis (keyed_of_readEntryLine? keyed assigned_eq) read

/-- Every table of a document that is read has each of its keys once. -/
theorem keyed_of_read? {text : String} {entries : Entries}
    (read : Toml.read? text = some entries) : entries.Keyed :=
  keyed_of_readDocument? Entries.keyed_nil read

end Reading

end Membrane.Toml
