import Membrane.Bridge.World

/-!
# Objects under the bookkeeping of a world

Handles, function objects and adapters come and go without any object noticing.
What an object is changes by `World.modifyObject` alone, and objects are only
ever added.
-/

namespace Membrane.World

variable {σ V : Type}

/-! ## New objects -/

/-- The entries of a list that grew by one. -/
theorem getElem?_concat {α : Type} (entries : List α) (last : α) (i : Nat) :
    (entries ++ [last])[i]? = if i = entries.length then some last else entries[i]? := by
  rcases Nat.lt_trichotomy i entries.length with old | rfl | beyond
  · rw [List.getElem?_append_left old, if_neg (Nat.ne_of_lt old)]
  · rw [List.getElem?_concat_length, if_pos rfl]
  · have outside : (entries ++ [last]).length ≤ i := by
      rw [List.length_append, List.length_singleton]
      exact beyond
    rw [if_neg (Nat.ne_of_gt beyond), List.getElem?_eq_none outside,
      List.getElem?_eq_none (Nat.le_of_lt beyond)]

/-- The objects after an allocation: the new one under the next identity, and
the others where they were. -/
theorem object?_allocate_eq (w : World σ V) (object : HostObject σ (Request σ V) (Answer σ V))
    (i : Nat) :
    (w.allocate object).2.object? i =
      if i = w.cells.length then some object else w.object? i := by
  simp only [object?, allocate, getElem?_concat]
  split <;> rfl

/-- An allocation leaves the objects that there are alone. -/
theorem object?_allocate_of_some {w : World σ V} {i : Nat}
    {old : HostObject σ (Request σ V) (Answer σ V)} (found : w.object? i = some old)
    (object : HostObject σ (Request σ V) (Answer σ V)) :
    (w.allocate object).2.object? i = w.object? i := by
  apply object?_allocate
  obtain ⟨cell, here, _⟩ := Option.map_eq_some_iff.mp found
  exact (List.getElem?_eq_some_iff.mp here).1

/-- There is no object under an identity that was not given out. -/
theorem object?_eq_none {w : World σ V} {i : Nat} (beyond : w.cells.length ≤ i) :
    w.object? i = none := by
  rw [object?, List.getElem?_eq_none beyond]
  rfl

theorem object?_modifyObject_ne {w : World σ V} {o i : Nat} (other : i ≠ o)
    (f : HostObject σ (Request σ V) (Answer σ V) → HostObject σ (Request σ V) (Answer σ V)) :
    (w.modifyObject o f).object? i = w.object? i := by
  rw [object?_modifyObject, if_neg other]

/-! ## Function objects -/

/-- Changing a function object changes no object. -/
@[simp] theorem object?_modifyFunction (w : World σ V) (function i : Nat)
    (f : FunctionObject V → FunctionObject V) :
    (w.modifyFunction function f).object? i = w.object? i := by
  by_cases zero : function = 0 <;> simp [modifyFunction, zero, object?]

/-- A reference to a function object changes no object. -/
@[simp] theorem object?_acquireFunction (w : World σ V) (function i : Nat) :
    (w.acquireFunction function).object? i = w.object? i := by
  simp [acquireFunction]

/-- Releasing a function object may give its binding's handle back, which
changes no object either. -/
@[simp] theorem object?_releaseFunction (w : World σ V) (function i : Nat) :
    (w.releaseFunction function).object? i = w.object? i := by
  simp only [releaseFunction]
  cases w.function? function with
  | none => rfl
  | some f => by_cases last : f.references = 1 <;> simp [last]

/-- A new function object changes no object. -/
@[simp] theorem object?_mint (w : World σ V) (binding : Binding) (trampoline : Trampoline)
    (codec : Codec V) (i : Nat) :
    (w.mint binding trampoline codec).2.object? i = w.object? i := rfl

/-- The engine's own references change no object. -/
@[simp] theorem object?_retain (w : World σ V) (function i : Nat) :
    (w.retain function).object? i = w.object? i := by
  by_cases kept : function ∈ w.retained
  · simp [retain, kept]
  · rw [retain, if_neg kept]
    exact object?_acquireFunction w function i

/-- Letting go of what the engine keeps changes no object. -/
@[simp] theorem object?_release (w : World σ V) (function i : Nat) :
    (w.release function).object? i = w.object? i := by
  by_cases kept : function ∈ w.retained
  · rw [release, if_pos kept, object?_releaseFunction]
    rfl
  · simp [release, kept]

/-! ## Handles and adapters -/

/-- A numbered handle changes no object. -/
@[simp] theorem object?_addHandle (w : World σ V) (ref : ObjectRef) (i : Nat) :
    (w.addHandle ref).2.object? i = w.object? i :=
  object?_acquireHandle w ref.id i

/-- Wrapping an object changes no object. -/
@[simp] theorem object?_addAdapter (w : World σ V) (a : Adapter V) (i : Nat) :
    (w.addAdapter a).2.object? i = w.object? i :=
  object?_acquireHandle w a.object.id i

/-- Letting go of a list of callables changes no object. -/
theorem object?_foldl_releaseFunction (methods : List (String × Nat)) (w : World σ V) (i : Nat) :
    (methods.foldl (fun w (_, function) => w.releaseFunction function) w).object? i =
      w.object? i := by
  induction methods generalizing w with
  | nil => rfl
  | cons entry rest ih => rw [List.foldl_cons, ih, object?_releaseFunction]

/-- Tearing an adapter down changes no object. -/
@[simp] theorem object?_tearDown (w : World σ V) (adapter : Nat) (a : Adapter V) (i : Nat) :
    (w.tearDown adapter a).object? i = w.object? i := by
  rw [tearDown, object?_releaseHandle, object?_foldl_releaseFunction]
  rfl

/-- Settling an adapter changes no object. -/
@[simp] theorem object?_settleAdapter (w : World σ V) (adapter i : Nat) :
    (w.settleAdapter adapter).object? i = w.object? i := by
  rw [settleAdapter]
  cases w.livingAdapter? adapter with
  | none => rfl
  | some a => by_cases used : a.isUsed <;> simp [used]

/-- Dropping an adapter changes no object. -/
@[simp] theorem object?_dropAdapter (w : World σ V) (adapter i : Nat) :
    (w.dropAdapter adapter).object? i = w.object? i := by
  rw [dropAdapter, object?_settleAdapter, object?_modifyAdapter]

/-- An operation that begins on an adapter changes no object. -/
@[simp] theorem object?_enterAdapter (w : World σ V) (adapter i : Nat) :
    (w.enterAdapter adapter).object? i = w.object? i := rfl

/-- An operation that ends on an adapter changes no object. -/
@[simp] theorem object?_leaveAdapter (w : World σ V) (adapter i : Nat) :
    (w.leaveAdapter adapter).object? i = w.object? i := by
  rw [leaveAdapter, object?_settleAdapter, object?_modifyAdapter]

/-- Publishing a callable changes no object. -/
@[simp] theorem object?_publish (w : World σ V) (adapter : Nat) (name : String)
    (function i : Nat) : (w.publish adapter name function).2.object? i = w.object? i := by
  rw [publish]
  cases w.livingAdapter? adapter with
  | none => rfl
  | some a => cases cached : a.cached? name <;> simp [cached]

end Membrane.World
