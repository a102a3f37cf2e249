import Membrane.Proofs.ArrayForm

/-!
# Filling an array

An array can be made from its values at once, or made of defaults and then
filled by one store after another. Both end alike: with the same array, or with
the fault of the first value that is refused, whatever comes after it
(`ofValues_eq_filling`). The stores meet an array whose front holds what was
admitted so far and whose back still holds defaults.
-/

namespace Membrane

variable {σ V : Type}

/-! ## One value after another -/

namespace TypedArray

/-- Stores values one after the other, from an index on; the first refusal is
the outcome. -/
def setFrom (a : TypedArray) (index : Nat) : List Value → Except Fault TypedArray
  | [] => .ok a
  | v :: rest => do
    let changed ← a.set index v
    changed.setFrom (index + 1) rest

/-- An array of which a front was filled and the rest holds defaults. -/
def partlyFilled (element : ValueType) (front : List Value) (room : Nat) : TypedArray :=
  ⟨element, front ++ List.replicate room element.default⟩

variable (element : ValueType) (front values : List Value) (v : Value) (room : Nat)

/-- A store at the end of the front makes the front longer by what is admitted. -/
theorem set_partlyFilled :
    (partlyFilled element front (room + 1)).set front.length v = do
      let stored ← element.admit v
      return partlyFilled element (front ++ [stored]) room := by
  cases admitted : element.admit v with
  | error fault => simp only [set, partlyFilled, admitted, bind, Except.bind]
  | ok stored =>
    have inside : front.length < (partlyFilled element front (room + 1)).length := by
      simp [length, partlyFilled]
    apply set_eq_ok_iff.mpr
    refine ⟨stored, admitted, inside, ?_⟩
    simp [partlyFilled, List.replicate_succ]

/-- Stores from the end of the front on make the front longer by all that is
admitted. -/
theorem setFrom_partlyFilled :
    (partlyFilled element front (values.length + room)).setFrom front.length values = do
      let stored ← values.mapM element.admit
      return partlyFilled element (front ++ stored) room := by
  induction values generalizing front with
  | nil => simp [setFrom, pure, Except.pure, bind, Except.bind]
  | cons v rest inductionHypothesis =>
    have next : (v :: rest).length + room = rest.length + room + 1 := Nat.succ_add ..
    rw [setFrom, next, set_partlyFilled, List.mapM_cons]
    cases element.admit v with
    | error fault => rfl
    | ok stored =>
      -- The front is one longer, which is where the next store goes.
      have further := inductionHypothesis (front ++ [stored])
      rw [List.length_append] at further
      simp only [bind, Except.bind, pure, Except.pure] at further ⊢
      rw [show front.length + 1 = front.length + [stored].length from rfl, further]
      cases rest.mapM element.admit with
      | error fault => rfl
      | ok more => simp

/-- An array of values is an array of defaults into which they were stored. -/
theorem ofValues_eq_setFrom :
    ofValues element values = (filled element values.length).setFrom 0 values := by
  have filling := setFrom_partlyFilled element [] values 0
  have start : partlyFilled element [] (values.length + 0) = filled element values.length := rfl
  rw [start, List.length_nil] at filling
  rw [filling, ofValues]
  cases values.mapM element.admit with
  | error fault => rfl
  | ok stored => simp [partlyFilled, bind, Except.bind, pure, Except.pure]

end TypedArray

/-! ## Stores into an object -/

/-- Stores values into an object one after the other, from an index on, until a
store faults. -/
def storeFrom (entry : Entry σ V) (ref : ObjectRef) (index : Nat) :
    List Value → Act σ V (Except Fault Unit)
  | [] => .pure (.ok ())
  | v :: rest => do
    match ← callObject entry ref (.setElement index v) with
    | .ok _ => storeFrom entry ref (index + 1) rest
    | .error fault => return .error fault

/-- A store faults after the stores of all values before it were made. -/
structure FaultsFirst (entry : Entry σ V) (ref : ObjectRef) (w : World σ V) (before : List Value)
    (v : Value) (fault : Fault) : Prop where
  made : (storeFrom entry ref 0 before w).value = .ok ()
  faults : (callObject entry ref (.setElement before.length v)
    (storeFrom entry ref 0 before w).world).value = .error fault

section

variable {entry : Entry σ V} {ref : ObjectRef} {index : Nat} {v : Value} {rest values : List Value}
  {w : World σ V} {element : ValueType} {fault : Fault}

theorem storeFrom_of_stored {answer : Value}
    (stored : (callObject entry ref (.setElement index v) w).value = .ok answer)
    (rest : List Value) :
    let later := storeFrom entry ref (index + 1) rest
      (callObject entry ref (.setElement index v) w).world
    (storeFrom entry ref index (v :: rest) w).value = later.value ∧
      (storeFrom entry ref index (v :: rest) w).world = later.world := by
  simp only [storeFrom, bind, Act.bind, stored, and_self]

theorem storeFrom_of_faulted
    (faulted : (callObject entry ref (.setElement index v) w).value = .error fault) :
    (storeFrom entry ref index (v :: rest) w).value = .error fault := by
  simp only [storeFrom, bind, Act.bind, faulted, pure, Act.pure]

/-- Stores end with a fault exactly if some store faults and those before it do
not. -/
theorem storeFrom_eq_error_iff :
    (storeFrom entry ref index values w).value = .error fault ↔
      ∃ before v after, values = before ++ v :: after ∧
        (storeFrom entry ref index before w).value = .ok () ∧
        (callObject entry ref (.setElement (index + before.length) v)
          (storeFrom entry ref index before w).world).value = .error fault := by
  induction values generalizing index w with
  | nil =>
    constructor
    · intro faults
      cases faults
    · rintro ⟨before, v, after, split, _⟩
      simp at split
  | cons first rest inductionHypothesis =>
    cases outcome : (callObject entry ref (.setElement index first) w).value with
    | error raised =>
      rw [storeFrom_of_faulted outcome]
      constructor
      · intro same
        cases same
        exact ⟨[], first, rest, rfl, rfl, outcome⟩
      · rintro ⟨before, v, after, split, made, faults⟩
        cases before with
        | nil =>
          cases split
          cases outcome.symm.trans faults
          rfl
        | cons _ before =>
          cases split
          cases (storeFrom_of_faulted outcome).symm.trans made
    | ok answer =>
      rw [(storeFrom_of_stored outcome rest).1, inductionHypothesis]
      constructor
      · rintro ⟨before, v, after, rfl, made, faults⟩
        obtain ⟨value, world⟩ := storeFrom_of_stored outcome before
        refine ⟨first :: before, v, after, rfl, value.trans made, ?_⟩
        rw [world, List.length_cons, Nat.add_comm before.length, ← Nat.add_assoc]
        exact faults
      · rintro ⟨before, v, after, split, made, faults⟩
        cases before with
        | nil =>
          cases split
          cases outcome.symm.trans faults
        | cons _ before =>
          cases split
          obtain ⟨value, world⟩ := storeFrom_of_stored outcome before
          refine ⟨before, v, after, rfl, value.symm.trans made, ?_⟩
          rw [world, List.length_cons, Nat.add_comm before.length, ← Nat.add_assoc] at faults
          exact faults

/-- Stores into an array object are stores into the array. -/
theorem storeFrom_of_array {a : TypedArray} (found : w.object? ref.id = some (.array a))
    (entry : Entry σ V) (index : Nat) (values : List Value) :
    let stores := storeFrom entry ref index values w
    (∀ changed, a.setFrom index values = .ok changed →
      stores.value = .ok () ∧ stores.world.object? ref.id = some (.array changed)) ∧
    ∀ fault, a.setFrom index values = .error fault → stores.value = .error fault := by
  induction values generalizing a index w with
  | nil =>
    constructor
    · intro changed made
      cases made
      exact ⟨rfl, found⟩
    · intro fault refused
      cases refused
  | cons v rest inductionHypothesis =>
    intro stores
    rw [TypedArray.setFrom]
    cases set : a.set index v with
    | error fault =>
      constructor
      · intro changed made
        cases made
      · intro raised refused
        cases refused
        exact storeFrom_of_faulted (callObject_of_set_error found set entry).1
    | ok changed =>
      obtain ⟨answer, after⟩ := callObject_of_set_ok found set entry
      obtain ⟨value, world⟩ := storeFrom_of_stored answer rest
      simp only [stores, value, world]
      exact inductionHypothesis ((after ref.id).trans (if_pos rfl)) (index + 1)

/-- The first store that faults does so for its value alone, which is refused in
the same place of every list that begins alike. -/
theorem ofValues_of_faultsFirst {before after : List Value}
    (found : w.object? ref.id = some (.array (.filled element (before ++ v :: after).length)))
    (first : FaultsFirst entry ref w before v fault) (later : List Value) :
    TypedArray.ofValues element (before ++ v :: later) = .error fault := by
  have room : (before ++ v :: after).length = before.length + (after.length + 1) := by simp
  rw [room] at found
  have front := TypedArray.setFrom_partlyFilled element [] before (after.length + 1)
  obtain ⟨made, refused⟩ := storeFrom_of_array found entry 0 before
  cases admitted : before.mapM element.admit with
  | error raised =>
    rw [admitted] at front
    cases (refused raised front).symm.trans first.made
  | ok stored =>
    rw [admitted] at front
    obtain ⟨_, reached⟩ := made _ front
    obtain ⟨length, _⟩ := TypedArray.mapM_admit admitted
    have next := TypedArray.set_partlyFilled element stored v after.length
    rw [length] at next
    cases head : element.admit v with
    | ok more =>
      rw [head] at next
      cases (callObject_of_set_ok reached next entry).1.symm.trans first.faults
    | error raised =>
      rw [head] at next
      cases (callObject_of_set_error reached next entry).1.symm.trans first.faults
      simp only [TypedArray.ofValues, List.mapM_append, List.mapM_cons, admitted, head, bind,
        Except.bind]

/-- An array can be made from values exactly if the values can be stored one
after the other into an array of as many defaults, and then it is the array that
the stores leave. Otherwise its fault is that of the first store that faults,
whatever values come after. -/
theorem ofValues_eq_filling
    (found : w.object? ref.id = some (.array (.filled element values.length)))
    (entry : Entry σ V) :
    let filling := storeFrom entry ref 0 values w
    ((∃ a, TypedArray.ofValues element values = .ok a) ↔ filling.value = .ok ()) ∧
    (∀ a, TypedArray.ofValues element values = .ok a → ∃ filled,
      filling.world.object? ref.id = some (.array filled) ∧ filled.typeName = a.typeName ∧
        filled.length = a.length ∧ filled.elements = a.elements) ∧
    (∀ fault, TypedArray.ofValues element values = .error fault ↔ ∃ before v after,
      values = before ++ v :: after ∧ FaultsFirst entry ref w before v fault) ∧
    ∀ before v after fault, values = before ++ v :: after →
      FaultsFirst entry ref w before v fault →
      ∀ later, TypedArray.ofValues element (before ++ v :: later) = .error fault := by
  intro filling
  obtain ⟨made, refused⟩ := storeFrom_of_array found entry 0 values
  rw [← TypedArray.ofValues_eq_setFrom] at made refused
  refine ⟨?_, ?_, ?_, ?_⟩
  · constructor
    · rintro ⟨a, built⟩
      exact (made a built).1
    · intro stored
      cases built : TypedArray.ofValues element values with
      | ok a => exact ⟨a, rfl⟩
      | error fault => cases (refused fault built).symm.trans stored
  · intro a built
    exact ⟨a, (made a built).2, rfl, rfl, rfl⟩
  · intro fault
    constructor
    · intro fails
      obtain ⟨before, v, after, split, stored, faults⟩ :=
        storeFrom_eq_error_iff.mp (refused fault fails)
      rw [Nat.zero_add] at faults
      exact ⟨before, v, after, split, stored, faults⟩
    · rintro ⟨before, v, after, rfl, first⟩
      exact ofValues_of_faultsFirst found first after
  · rintro before v after fault rfl first
    exact ofValues_of_faultsFirst found first

/-- An int, a null and a text for an array of longs: the text is refused, in
both ways of making the array, and whatever comes after it. -/
theorem longs_refuse_text :
    let values : List Value := [.int 5, .null, .string "5", .bool true]
    let w : World Unit Value := (World.empty.addObject (.array (.filled .long 4))).2
    let refusal := Fault.invalidCast "String" "Int64"
    w.object? 0 = some (.array (.filled .long values.length)) ∧
      (storeFrom none ⟨0, "Int64[]"⟩ 0 values w).value ≠ .ok () ∧
      TypedArray.ofValues .long values = .error refusal ∧
      TypedArray.ofValues .long [.int 5, .null, .string "5"] = .error refusal := by
  intro values w refusal
  let ref : ObjectRef := ⟨0, "Int64[]"⟩
  have found : w.object? ref.id = some (.array (.filled .long values.length)) := rfl
  obtain ⟨succeeds, _, fails, same⟩ := ofValues_eq_filling found none
  have first : FaultsFirst none ref w [.int 5, .null] (.string "5") refusal := ⟨rfl, rfl⟩
  have refused := (fails refusal).mpr ⟨_, _, [.bool true], rfl, first⟩
  refine ⟨found, ?_, refused, same _ _ _ _ rfl first []⟩
  intro stored
  obtain ⟨a, built⟩ := succeeds.mpr stored
  cases built.symm.trans refused

end

end Membrane
