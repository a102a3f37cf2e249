import Membrane.Proofs.Changes
import Membrane.Proofs.ElementStore

/-!
# The form of an array

An array keeps its element type and its length for good, and holds nothing but
values of its element type, and null where that type has a null. A store goes
one of three ways: null becomes the type's default, a value of the type is kept
as it is, and one that widens is converted. The conversion succeeds and lands in
the element type wherever the widening is allowed, so that a store is refused for
the type of the value or for the index, and for nothing else.
-/

namespace Membrane

variable {σ V : Type}

namespace ValueType

variable {element source : ValueType} {v : Value}

/-- Whether null is among the values of a type. -/
def takesNull : ValueType → Bool
  | any | string | object _ => true
  | bool | int | long | double => false

/-- What an array of an element type may hold: null where the type has one, and
values of a type that can be assigned to it. -/
def Holds (element : ValueType) (v : Value) : Prop :=
  match v.type? with
  | none => element.takesNull = true
  | some source => element.isAssignableFrom source = true

/-- What an array of an element type can be given: null, and what widens to the
type. -/
def Takes (element : ValueType) (v : Value) : Prop :=
  ∀ source, v.type? = some source → element.widensFrom source = true

theorem holds_default (element : ValueType) : element.Holds element.default := by
  cases element <;> rfl

theorem holds_of_type? (type : v.type? = some source)
    (assignable : element.isAssignableFrom source = true) : element.Holds v := by
  rw [Holds, type]
  exact assignable

/-- A type can be assigned to itself. -/
theorem isAssignableFrom_self (element : ValueType) : element.isAssignableFrom element = true := by
  simp [isAssignableFrom]

theorem widensFrom_of_isAssignableFrom (assignable : element.isAssignableFrom source = true) :
    element.widensFrom source = true := by
  unfold widensFrom
  rw [assignable, Bool.true_or]

/-- An array of a type without null holds values of exactly that type. -/
theorem Holds.type?_eq (holds : element.Holds v) (scalar : element.takesNull = false) :
    v.type? = some element := by
  rw [Holds] at holds
  cases type : v.type? with
  | none =>
    rw [type, scalar] at holds
    cases holds
  | some source =>
    rw [type] at holds
    have notAny : element ≠ .any := by
      rintro rfl
      cases scalar
    rcases Bool.or_eq_true_iff.mp holds with any | same
    · exact absurd (beq_iff_eq.mp any) notAny
    · rw [← beq_iff_eq.mp same]

/-- The conversion of a value that widens without being assignable succeeds and
gives a value of the wider type. -/
theorem changeType_of_widensFrom (type : v.type? = some source)
    (widens : element.widensFrom source = true)
    (unassignable : element.isAssignableFrom source = false) :
    ∃ stored, v.changeType element = .ok stored ∧ stored.type? = some element := by
  -- Only three widenings are left, each from one constructor.
  unfold widensFrom at widens
  rw [unassignable, Bool.false_or] at widens
  split at widens
  · cases v <;> cases type
    exact ⟨_, rfl, rfl⟩
  · cases v <;> cases type
    exact ⟨_, rfl, rfl⟩
  · cases v <;> cases type
    exact ⟨_, rfl, rfl⟩
  · cases widens

/-- What an array can be given is stored as a value that it may hold. -/
theorem admit_of_takes (takes : element.Takes v) :
    ∃ stored, element.admit v = .ok stored ∧ element.Holds stored := by
  unfold ValueType.admit
  cases type : v.type? with
  | none => exact ⟨element.default, rfl, holds_default element⟩
  | some source =>
    cases assignable : element.isAssignableFrom source with
    | true =>
      simp only [assignable, if_true]
      exact ⟨v, rfl, holds_of_type? type assignable⟩
    | false =>
      have widens := takes source type
      obtain ⟨stored, converted, kind⟩ := changeType_of_widensFrom type widens assignable
      simp only [assignable, widens, if_true]
      exact ⟨stored, converted, holds_of_type? kind (isAssignableFrom_self element)⟩

/-- Anything else is refused as a cast, whatever its conversion would say. -/
theorem admit_of_not_takes (refuses : ¬ element.Takes v) :
    element.admit v = .error (.invalidCast v.label element.display) := by
  simp only [Takes, not_forall] at refuses
  obtain ⟨source, type, narrow⟩ := refuses
  have unassignable : element.isAssignableFrom source ≠ true := fun assignable =>
    narrow (widensFrom_of_isAssignableFrom assignable)
  simp only [type, ValueType.admit, unassignable, narrow, Bool.false_eq_true, if_false]
  rfl

theorem holds_of_admit {stored : Value} (admitted : element.admit v = .ok stored) :
    element.Holds stored := by
  by_cases takes : element.Takes v
  · obtain ⟨_, same, holds⟩ := admit_of_takes takes
    cases admitted.symm.trans same
    exact holds
  · cases (admit_of_not_takes takes).symm.trans admitted

end ValueType

namespace TypedArray

/-- An array of an element type and a length, with elements that it may hold. -/
structure HasForm (a : TypedArray) (element : ValueType) (length : Nat) : Prop where
  elementType : a.elementType = element
  length : a.length = length
  holds : ∀ v ∈ a.elements, element.Holds v

/-- An array as it is made: filled with defaults, or from values that were all
admitted. -/
inductive MadeFor : TypedArray → ValueType → Nat → Prop where
  | filled (element : ValueType) (length : Nat) :
      MadeFor (.filled element length) element length
  | ofValues {a : TypedArray} {element : ValueType} {values : List Value}
      (made : TypedArray.ofValues element values = .ok a) : MadeFor a element values.length

/-- How a store of a value at an index is answered by an array of an element type
and a length. -/
inductive AnswersStore (element : ValueType) (length index : Nat) (v : Value) :
    Except Fault Value → Prop where
  | stored (takes : element.Takes v) (inside : index < length) :
      AnswersStore element length index v (.ok .null)
  | refused (refuses : ¬ element.Takes v) :
      AnswersStore element length index v (.error (.invalidCast v.label element.display))
  | outside (takes : element.Takes v) (beyond : length ≤ index) :
      AnswersStore element length index v (.error (.indexOutOfRange index length))

variable {a : TypedArray} {element : ValueType} {n : Nat}

theorem mapM_admit {values stored : List Value}
    (admitted : values.mapM element.admit = .ok stored) :
    stored.length = values.length ∧ ∀ v ∈ stored, element.Holds v := by
  induction values generalizing stored with
  | nil =>
    cases admitted
    exact ⟨rfl, nofun⟩
  | cons first rest ih =>
    rw [List.mapM_cons] at admitted
    cases head : element.admit first with
    | error fault =>
      rw [head] at admitted
      cases admitted
    | ok v =>
      cases tail : rest.mapM element.admit with
      | error fault =>
        rw [head, tail] at admitted
        cases admitted
      | ok vs =>
        rw [head, tail] at admitted
        cases admitted
        obtain ⟨length, holds⟩ := ih tail
        refine ⟨congrArg (· + 1) length, ?_⟩
        intro u mem
        rcases List.mem_cons.mp mem with rfl | later
        · exact ValueType.holds_of_admit head
        · exact holds u later

theorem MadeFor.hasForm (made : a.MadeFor element n) : a.HasForm element n := by
  cases made with
  | filled =>
    refine ⟨rfl, List.length_replicate, ?_⟩
    intro v mem
    rw [List.eq_of_mem_replicate mem]
    exact element.holds_default
  | @ofValues _ _ values made =>
    cases admitted : values.mapM element.admit with
    | error fault =>
      rw [TypedArray.ofValues, admitted] at made
      cases made
    | ok stored =>
      rw [TypedArray.ofValues, admitted] at made
      cases made
      obtain ⟨length, holds⟩ := mapM_admit admitted
      exact ⟨rfl, length, holds⟩

/-- A store puts one more value in that the array may hold. -/
theorem HasForm.set {changed : TypedArray} {index : Nat} {v : Value} (form : a.HasForm element n)
    (stores : a.set index v = .ok changed) : changed.HasForm element n := by
  obtain ⟨stored, admitted, _, rfl⟩ := set_eq_ok_iff.mp stores
  refine ⟨form.elementType, (List.length_set ..).trans form.length, ?_⟩
  intro u mem
  rcases List.mem_or_eq_of_mem_set mem with old | rfl
  · exact form.holds u old
  · rw [← form.elementType]
    exact ValueType.holds_of_admit admitted

theorem HasForm.callArray (form : a.HasForm element n) (call : HostCall) :
    (HostObject.callArray a call).2.HasForm element n := by
  cases call with
  | setElement index v =>
    cases stores : a.set index v with
    | ok changed =>
      simp only [HostObject.callArray, stores]
      exact form.set stores
    | error fault =>
      simp only [HostObject.callArray, stores]
      exact form
  | getProperty name =>
    rw [HostObject.callArray]
    split <;> exact form
  | setProperty | invoke | getItem | setItem | getElement => exact form

/-- A store of a value of a wrong type is refused as such, whatever the index. -/
theorem set_of_not_takes {index : Nat} {v : Value} (refuses : ¬ a.elementType.Takes v) :
    a.set index v = .error (.invalidCast v.label a.elementType.display) := by
  simp only [TypedArray.set, ValueType.admit_of_not_takes refuses, bind, Except.bind]

/-- A store of any other value is refused for an index that the array has not. -/
theorem set_of_outside {index : Nat} {v : Value} (takes : a.elementType.Takes v)
    (beyond : a.length ≤ index) : a.set index v = .error (.indexOutOfRange index a.length) := by
  obtain ⟨stored, admitted, _⟩ := ValueType.admit_of_takes takes
  simp only [TypedArray.set, admitted, bind, Except.bind, Nat.not_lt.mpr beyond, if_false]

/-- A store is refused for the type of the value or for the index only. -/
theorem answersStore (a : TypedArray) (index : Nat) (v : Value) :
    AnswersStore a.elementType a.length index v
      (HostObject.callArray a (.setElement index v)).1 := by
  by_cases takes : a.elementType.Takes v
  · rcases Nat.lt_or_ge index a.length with inside | beyond
    · obtain ⟨stored, admitted, _⟩ := ValueType.admit_of_takes takes
      have stores := set_eq_ok_iff.mpr ⟨stored, admitted, inside, rfl⟩
      simp only [HostObject.callArray, stores]
      exact .stored takes inside
    · simp only [HostObject.callArray, set_of_outside takes beyond]
      exact .outside takes beyond
  · simp only [HostObject.callArray, set_of_not_takes takes]
    exact .refused takes

end TypedArray

namespace World

/-- Arrays stay where they are, and keep every form that they have. -/
def KeepsArrays (w w' : World σ V) : Prop :=
  ∀ o a, w.object? o = some (.array a) → ∃ a', w'.object? o = some (.array a') ∧
    ∀ element n, a.HasForm element n → a'.HasForm element n

theorem KeepsArrays.of_objects {w w' : World σ V} (same : ∀ o, w'.object? o = w.object? o) :
    w.KeepsArrays w' :=
  fun o a found => ⟨a, (same o).trans found, fun _ _ form => form⟩

theorem KeepsArrays.trans {w w' w'' : World σ V} (first : w.KeepsArrays w')
    (second : w'.KeepsArrays w'') : w.KeepsArrays w'' := by
  intro o a found
  obtain ⟨a', found', keeps⟩ := first o a found
  obtain ⟨a'', found'', keeps'⟩ := second o a' found'
  exact ⟨a'', found'', fun element n form => keeps' element n (keeps element n form)⟩

theorem Change.keepsArrays {w w' : World σ V} (change : Change w w') : w.KeepsArrays w' := by
  cases change with
  | allocated object =>
    exact fun o a found =>
      ⟨a, (object?_allocate_of_some found object).trans found, fun _ _ form => form⟩
  | declared => exact .of_objects fun _ => rfl
  | numbered ref => exact .of_objects fun o => w.object?_addHandle ref o
  | lent o spares =>
    intro i a found
    refine ⟨a, ?_, fun _ _ form => form⟩
    rw [object?_modifyObject, found]
    split
    · exact congrArg some (spares a)
    · rfl
  | @stored o array found call =>
    intro i a here
    by_cases same : i = o
    · subst same
      cases found.symm.trans here
      exact ⟨_, (object?_store found _ _).trans (if_pos rfl), fun _ _ form => form.callArray call⟩
    · exact ⟨a, (object?_store found _ _).trans ((if_neg same).trans here), fun _ _ form => form⟩
  | wrapped empty => exact .of_objects fun o => w.object?_addAdapter _ o
  | tended tends => exact .of_objects tends.objects
  | resolved name living mint =>
    apply KeepsArrays.of_objects
    intro o
    rw [object?_publish, mint, object?_mint]

theorem Becomes.keepsArrays {w w' : World σ V} (becomes : w.Becomes w') : w.KeepsArrays w' := by
  induction becomes with
  | refl => exact .of_objects fun _ => rfl
  | tail _ change ih => exact ih.trans change.keepsArrays

end World

/-- The event that an object was called. -/
def Event.isCall : Event σ V → Bool
  | .called .. => true
  | _ => false

/-- A call that finds an array is answered by the array. -/
def Span.AnsweredByArray (span : Span σ V) : Prop :=
  ∀ o call outcome a, span.event = .called o call outcome →
    span.before.object? o = some (.array a) → outcome = (HostObject.callArray a call).1

theorem Span.answeredByArray_of_found {span : Span σ V} {o : Nat} {call : HostCall}
    {outcome : Except Fault Value} {object : HostObject σ (Request σ V) (Answer σ V)}
    (called : span.event = .called o call outcome) (found : span.before.object? o = some object)
    (other : ∀ a, object ≠ .array a) : span.AnsweredByArray := by
  intro i _ _ a event array
  rw [called] at event
  cases event
  exact absurd (Option.some.inj (found.symm.trans array)) (other a)

theorem Span.answeredByArray_of_other {span : Span σ V} (other : span.event.isCall = false) :
    span.AnsweredByArray := by
  intro o call outcome a called
  rw [called] at other
  cases other

/-- An array refuses nothing before it answers. -/
theorem World.refusal?_of_array {w : World σ V} {ref : ObjectRef} {a : TypedArray}
    (found : w.object? ref.id = some (.array a)) (call : HostCall) :
    w.refusal? ref call = none := by
  rw [World.refusal?, found]

theorem Course.answeredByArray {direct} {w w' : World σ V} {t : List (Span σ V)}
    (course : Course direct w t w') : Throughout Span.AnsweredByArray t := by
  intro span occurs
  cases course.arises span occurs with
  | refused refusal =>
    intro o _ _ a event array
    cases event
    cases (World.refusal?_of_array array _).symm.trans refusal
  | stored found =>
    intro o _ _ a event here
    cases event
    cases found.symm.trans here
    rfl
  | called found other => exact Span.answeredByArray_of_found rfl found other
  | performed | read | written | replied | held | missed | hit | minted =>
    exact Span.answeredByArray_of_other rfl

/-- An array has the form that it was made for, and has it at every later moment
of every run, whoever reaches it in whatever way: its element type, its length,
and elements of its type, with null only where the type has a null. A store into
an array at any depth is made, or refused for the type of the value, or refused
for the index. -/
theorem arrays_keep_their_form (depth : Nat) (p : Routine σ V Unit) (w : World σ V) :
    let run := performProgram (entryAt depth) p w
    (∀ (a : TypedArray) element n, a.MadeFor element n → a.HasForm element n) ∧
    InOrder (fun u u' => ∀ o a element n, u.object? o = some (.array a) → a.MadeFor element n →
      ∃ a', u'.object? o = some (.array a') ∧ a'.HasForm element n ∧
        (element ∈ [.bool, .int, .long, .double] → ∀ v ∈ a'.elements, v.type? = some element))
      w run.trace run.world ∧
    Throughout (fun span => ∀ o index v outcome a,
      span.event = .called o (.setElement index v) outcome →
      span.before.object? o = some (.array a) →
      TypedArray.AnswersStore a.elementType a.length index v outcome) run.trace := by
  intro run
  have course := performProgram_course depth p w
  refine ⟨fun a element n made => made.hasForm, ?_, ?_⟩
  · apply course.becomes.mono
    intro u u' becomes o a element n found made
    obtain ⟨a', found', keeps⟩ := becomes.keepsArrays o a found
    have form := keeps element n made.hasForm
    refine ⟨a', found', form, fun scalar v mem => (form.holds v mem).type?_eq ?_⟩
    cases element <;> simp_all [ValueType.takesNull]
  · intro span occurs o index v outcome a called found
    rw [course.answeredByArray span occurs o _ outcome a called found]
    exact a.answersStore index v

/-- Longs that are given an int, a text and an index too high stay longs. -/
theorem longs_stay_longs :
    let w : World Unit Value := (World.empty.addObject (.array (.filled .long 2))).2
    let p : Routine Unit Value Unit := Program.performAll [
      .done (.call 0 (.setElement 0 (.int 5))), .done (.call 0 (.setElement 1 (.string "5"))),
      .done (.call 0 (.setElement 2 .null))]
    let after := (performProgram (entryAt 0) p w).world
    ∃ a, after.object? 0 = some (.array a) ∧ a.HasForm .long 2 ∧ a.get 0 = .ok (.long 5) := by
  intro w p after
  obtain ⟨_, keeps, _⟩ := arrays_keep_their_form 0 p w
  obtain ⟨a, found, form, _⟩ := keeps.ends 0 (.filled .long 2) .long 2 rfl (.filled .long 2)
  refine ⟨a, found, form, ?_⟩
  cases found
  rfl

end Membrane
