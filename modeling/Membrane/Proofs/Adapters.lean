import Membrane.Proofs.Objects

/-!
# Adapters under the changes of a world

An adapter is found under its number until it is torn down, and that happens
only when nothing keeps it any more. Objects, handles and function objects come
and go without any adapter noticing.
-/

namespace Membrane.World

variable {σ V : Type}

/-! ## Changes that leave the adapters alone -/

/-- An adapter is found in the list of adapters alone. -/
theorem livingAdapter?_congr {w w' : World σ V} (same : w'.adapters = w.adapters) (i : Nat) :
    w'.livingAdapter? i = w.livingAdapter? i := by
  rw [livingAdapter?, same]
  rfl

@[simp] theorem adapters_modifyObject (w : World σ V) (id : Nat)
    (f : HostObject σ (Request σ V) (Answer σ V) → HostObject σ (Request σ V) (Answer σ V)) :
    (w.modifyObject id f).adapters = w.adapters := rfl

@[simp] theorem adapters_allocate (w : World σ V)
    (object : HostObject σ (Request σ V) (Answer σ V)) :
    (w.allocate object).2.adapters = w.adapters := rfl

@[simp] theorem adapters_acquireHandle (w : World σ V) (id : Nat) :
    (w.acquireHandle id).adapters = w.adapters := rfl

@[simp] theorem adapters_releaseHandle (w : World σ V) (id : Nat) :
    (w.releaseHandle id).adapters = w.adapters := rfl

@[simp] theorem adapters_addHandle (w : World σ V) (ref : ObjectRef) :
    (w.addHandle ref).2.adapters = w.adapters := rfl

@[simp] theorem adapters_modifyFunction (w : World σ V) (function : Nat)
    (f : FunctionObject V → FunctionObject V) :
    (w.modifyFunction function f).adapters = w.adapters := by
  by_cases zero : function = 0 <;> simp [modifyFunction, zero]

@[simp] theorem adapters_acquireFunction (w : World σ V) (function : Nat) :
    (w.acquireFunction function).adapters = w.adapters := by
  simp [acquireFunction]

@[simp] theorem adapters_releaseFunction (w : World σ V) (function : Nat) :
    (w.releaseFunction function).adapters = w.adapters := by
  simp only [releaseFunction]
  cases w.function? function with
  | none => rfl
  | some f => by_cases last : f.references = 1 <;> simp [last]

@[simp] theorem adapters_mint (w : World σ V) (binding : Binding) (trampoline : Trampoline)
    (codec : Codec V) : (w.mint binding trampoline codec).2.adapters = w.adapters := rfl

@[simp] theorem adapters_retain (w : World σ V) (function : Nat) :
    (w.retain function).adapters = w.adapters := by
  by_cases kept : function ∈ w.retained
  · simp [retain, kept]
  · rw [retain, if_neg kept]
    exact adapters_acquireFunction w function

@[simp] theorem adapters_release (w : World σ V) (function : Nat) :
    (w.release function).adapters = w.adapters := by
  by_cases kept : function ∈ w.retained
  · rw [release, if_pos kept, adapters_releaseFunction]
  · simp [release, kept]

/-! ## Adapters made and torn down -/

/-- A new adapter gets the next number. -/
@[simp] theorem adapters_addAdapter (w : World σ V) (a : Adapter V) :
    (w.addAdapter a).2.adapters = w.adapters ++ [some a] := rfl

/-- Numbers of adapters stay taken: changing one adds none and removes none. -/
@[simp] theorem length_adapters_modifyAdapter (w : World σ V) (adapter : Nat)
    (f : Adapter V → Adapter V) :
    (w.modifyAdapter adapter f).adapters.length = w.adapters.length :=
  List.length_modify _ _ _

/-- A living adapter has a number that was given out. -/
theorem lt_length_of_livingAdapter? {w : World σ V} {i : Nat} {a : Adapter V}
    (living : w.livingAdapter? i = some a) : i < w.adapters.length := by
  rcases Option.join_eq_some_iff.mp living with found
  exact (List.getElem?_eq_some_iff.mp found).1

/-- A new adapter is found under its own number, and the others where they
were. -/
theorem livingAdapter?_addAdapter (w : World σ V) (a : Adapter V) (i : Nat) :
    (w.addAdapter a).2.livingAdapter? i =
      if i = w.adapters.length then some a else w.livingAdapter? i := by
  rw [livingAdapter?, adapters_addAdapter, getElem?_concat]
  split <;> rfl

/-- What lives when an adapter was added is the new one, under the next number, or
lived before. -/
theorem new_or_living_of_addAdapter {w : World σ V} {a b : Adapter V} {i : Nat}
    (living : (w.addAdapter a).2.livingAdapter? i = some b) :
    i = w.adapters.length ∧ a = b ∨ w.livingAdapter? i = some b := by
  rw [livingAdapter?_addAdapter] at living
  by_cases new : i = w.adapters.length
  · rw [if_pos new] at living
    exact Or.inl ⟨new, Option.some.inj living⟩
  · rw [if_neg new] at living
    exact Or.inr living

/-- Letting go of a list of callables leaves the adapters alone. -/
theorem adapters_foldl_releaseFunction (methods : List (String × Nat)) (w : World σ V) :
    (methods.foldl (fun w (_, function) => w.releaseFunction function) w).adapters =
      w.adapters := by
  induction methods generalizing w with
  | nil => rfl
  | cons entry rest ih => rw [List.foldl_cons, ih, adapters_releaseFunction]

/-- Tearing down empties the place of one adapter. -/
@[simp] theorem adapters_tearDown (w : World σ V) (adapter : Nat) (a : Adapter V) :
    (w.tearDown adapter a).adapters = w.adapters.set adapter none := by
  rw [tearDown, adapters_releaseHandle, adapters_foldl_releaseFunction]

/-- An adapter that was torn down is found no more. -/
theorem livingAdapter?_tearDown (w : World σ V) (adapter : Nat) (a : Adapter V) (i : Nat) :
    (w.tearDown adapter a).livingAdapter? i =
      if i = adapter then none else w.livingAdapter? i := by
  rw [livingAdapter?, adapters_tearDown, List.getElem?_set]
  by_cases same : i = adapter
  · subst same
    by_cases inside : i < w.adapters.length <;> simp [inside]
  · rw [if_neg (Ne.symm same), if_neg same]
    rfl

/-- Settling an adapter removes it exactly when nothing keeps it. -/
theorem livingAdapter?_settleAdapter (w : World σ V) (adapter i : Nat) :
    (w.settleAdapter adapter).livingAdapter? i =
      if i = adapter then (w.livingAdapter? i).filter Adapter.isUsed
      else w.livingAdapter? i := by
  rw [settleAdapter]
  cases living : w.livingAdapter? adapter with
  | none =>
    by_cases same : i = adapter
    · subst same
      simp [living]
    · rw [if_neg same]
  | some a =>
    by_cases used : a.isUsed
    · by_cases same : i = adapter
      · subst same
        simp [living, used, Option.filter]
      · simp [used, same]
    · by_cases same : i = adapter
      · subst same
        simp [living, used, livingAdapter?_tearDown, Option.filter]
      · simp [used, same, livingAdapter?_tearDown]

/-- Settling adds no number and removes none. -/
@[simp] theorem length_adapters_settleAdapter (w : World σ V) (adapter : Nat) :
    (w.settleAdapter adapter).adapters.length = w.adapters.length := by
  rw [settleAdapter]
  cases w.livingAdapter? adapter with
  | none => rfl
  | some a => by_cases used : a.isUsed <;> simp [used]

/-- A dropped adapter lives on only while operations run on it. -/
theorem livingAdapter?_dropAdapter (w : World σ V) (adapter i : Nat) :
    (w.dropAdapter adapter).livingAdapter? i =
      if i = adapter then
        ((w.livingAdapter? i).map fun a => { a with named := false }).filter Adapter.isUsed
      else w.livingAdapter? i := by
  rw [dropAdapter, livingAdapter?_settleAdapter, livingAdapter?_modifyAdapter]
  by_cases same : i = adapter <;> simp [same]

@[simp] theorem length_adapters_dropAdapter (w : World σ V) (adapter : Nat) :
    (w.dropAdapter adapter).adapters.length = w.adapters.length := by
  rw [dropAdapter, length_adapters_settleAdapter, length_adapters_modifyAdapter]

/-! ## Operations on an adapter -/

/-- An operation that begins is counted at its own adapter. -/
theorem livingAdapter?_enterAdapter (w : World σ V) (adapter i : Nat) :
    (w.enterAdapter adapter).livingAdapter? i =
      if i = adapter then (w.livingAdapter? i).map fun a => { a with running := a.running + 1 }
      else w.livingAdapter? i :=
  livingAdapter?_modifyAdapter w adapter i _

/-- An operation that ends is counted off, and the adapter goes if it was the
last to keep it. -/
theorem livingAdapter?_leaveAdapter (w : World σ V) (adapter i : Nat) :
    (w.leaveAdapter adapter).livingAdapter? i =
      if i = adapter then
        ((w.livingAdapter? i).map fun a => { a with running := a.running - 1 }).filter
          Adapter.isUsed
      else w.livingAdapter? i := by
  rw [leaveAdapter, livingAdapter?_settleAdapter, livingAdapter?_modifyAdapter]
  by_cases same : i = adapter <;> simp [same]

@[simp] theorem length_adapters_enterAdapter (w : World σ V) (adapter : Nat) :
    (w.enterAdapter adapter).adapters.length = w.adapters.length :=
  length_adapters_modifyAdapter w adapter _

@[simp] theorem length_adapters_leaveAdapter (w : World σ V) (adapter : Nat) :
    (w.leaveAdapter adapter).adapters.length = w.adapters.length := by
  rw [leaveAdapter, length_adapters_settleAdapter, length_adapters_modifyAdapter]

/-- The adapter that is found under a number that still names one. -/
theorem livingAdapter?_of_adapter? {w : World σ V} {adapter : Nat} {a : Adapter V}
    (found : w.adapter? adapter = some a) :
    w.livingAdapter? adapter = some a ∧ a.named = true :=
  Option.filter_eq_some_iff.mp found

theorem livingAdapter?_enterAdapter_of_adapter? {w : World σ V} {adapter : Nat} {a : Adapter V}
    (found : w.adapter? adapter = some a) :
    (w.enterAdapter adapter).livingAdapter? adapter = some { a with running := a.running + 1 } := by
  rw [livingAdapter?_enterAdapter, if_pos rfl, (livingAdapter?_of_adapter? found).1,
    Option.map_some]

/-- Beginning an operation on an adapter and ending it at once is nothing. -/
theorem leaveAdapter_enterAdapter {w : World σ V} {adapter : Nat} {a : Adapter V}
    (found : w.adapter? adapter = some a) :
    (w.enterAdapter adapter).leaveAdapter adapter = w := by
  obtain ⟨living, named⟩ := livingAdapter?_of_adapter? found
  have restored : ((w.enterAdapter adapter).modifyAdapter adapter
      fun a => { a with running := a.running - 1 }) = w := by
    have places : ∀ place : Option (Adapter V),
        (place.map fun a => { a with running := a.running + 1 }).map
          (fun a => { a with running := a.running - 1 }) = place := by
      intro place
      cases place <;> rfl
    simp only [enterAdapter, modifyAdapter, List.modify_modify_eq, Function.comp_def, places]
    rw [show (fun place : Option (Adapter V) => place) = id from rfl, List.modify_id]
  rw [leaveAdapter, restored]
  exact settleAdapter_of_isUsed living (by simp [Adapter.isUsed, named])

end Membrane.World
