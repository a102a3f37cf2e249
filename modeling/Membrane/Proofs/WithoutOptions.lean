import Membrane.Bridge.Adapter
import Membrane.Proofs.Adapters

/-!
# Worlds up to the options of their adapters

Two worlds are the same up to options if they are equal once all options are
unset. No change of a world looks at options: each makes of equal worlds equal
ones, since unsetting options first or last comes to the same.
-/

namespace Membrane

variable {σ V : Type}

/-- An adapter with its options unset. -/
def Adapter.withoutOptions (a : Adapter V) : Adapter V :=
  { a with options := .unset }

namespace World

/-- A world with the options of all its adapters unset. -/
def withoutOptions (w : World σ V) : World σ V :=
  { w with adapters := w.adapters.map (·.map .withoutOptions) }

/-! ## What is found -/

variable (w : World σ V)

@[simp] theorem function?_withoutOptions (function : Nat) :
    w.withoutOptions.function? function = w.function? function := rfl

@[simp] theorem livingAdapter?_withoutOptions (i : Nat) :
    w.withoutOptions.livingAdapter? i = (w.livingAdapter? i).map .withoutOptions := by
  rw [livingAdapter?, livingAdapter?, withoutOptions, List.getElem?_map]
  rcases w.adapters[i]? with _ | _ | a <;> rfl

@[simp] theorem adapter?_withoutOptions (i : Nat) :
    w.withoutOptions.adapter? i = (w.adapter? i).map .withoutOptions := by
  rw [adapter?, adapter?, livingAdapter?_withoutOptions]
  cases w.livingAdapter? i with
  | none => rfl
  | some a => cases named : a.named <;> simp [Option.filter, Adapter.withoutOptions, named]

/-- What worlds that are the same up to options agree on. -/
theorem object?_of_withoutOptions {w w' : World σ V}
    (same : w.withoutOptions = w'.withoutOptions) (o : Nat) : w.object? o = w'.object? o :=
  congrArg (·.object? o) same

theorem surface_of_withoutOptions {w w' : World σ V}
    (same : w.withoutOptions = w'.withoutOptions) (ref : ObjectRef) :
    w.surface ref = w'.surface ref :=
  congrArg (·.surface ref) same

theorem map_adapter?_of_withoutOptions {w w' : World σ V}
    (same : w.withoutOptions = w'.withoutOptions) (i : Nat) :
    (w.adapter? i).map Adapter.withoutOptions = (w'.adapter? i).map Adapter.withoutOptions := by
  rw [← adapter?_withoutOptions, ← adapter?_withoutOptions, same]

theorem map_livingAdapter?_of_withoutOptions {w w' : World σ V}
    (same : w.withoutOptions = w'.withoutOptions) (i : Nat) :
    (w.livingAdapter? i).map Adapter.withoutOptions =
      (w'.livingAdapter? i).map Adapter.withoutOptions := by
  rw [← livingAdapter?_withoutOptions, ← livingAdapter?_withoutOptions, same]

/-! ## Handles and function objects -/

@[simp] theorem withoutOptions_releaseHandle (o : Nat) :
    (w.releaseHandle o).withoutOptions = w.withoutOptions.releaseHandle o := rfl

@[simp] theorem withoutOptions_modifyFunction (function : Nat)
    (f : FunctionObject V → FunctionObject V) :
    (w.modifyFunction function f).withoutOptions = w.withoutOptions.modifyFunction function f := by
  rw [modifyFunction, modifyFunction]
  split <;> rfl

@[simp] theorem withoutOptions_acquireFunction (function : Nat) :
    (w.acquireFunction function).withoutOptions = w.withoutOptions.acquireFunction function :=
  w.withoutOptions_modifyFunction function _

@[simp] theorem withoutOptions_releaseFunction (function : Nat) :
    (w.releaseFunction function).withoutOptions = w.withoutOptions.releaseFunction function := by
  rw [releaseFunction, releaseFunction, function?_withoutOptions]
  cases w.function? function with
  | none => rfl
  | some f =>
    by_cases last : f.references = 1 <;>
      simp only [last, if_true, if_false, withoutOptions_releaseHandle,
        withoutOptions_modifyFunction]

theorem withoutOptions_retain (function : Nat) :
    (w.retain function).withoutOptions = w.withoutOptions.retain function := by
  have kept : w.withoutOptions.retained = w.retained := rfl
  rw [retain, retain, kept, ← withoutOptions_acquireFunction]
  split <;> rfl

theorem withoutOptions_release (function : Nat) :
    (w.release function).withoutOptions = w.withoutOptions.release function := by
  have kept : w.withoutOptions.retained = w.retained := rfl
  rw [release, release, kept]
  split
  · rw [withoutOptions_releaseFunction]
    rfl
  · rfl

theorem withoutOptions_foldl_releaseFunction (methods : List (String × Nat)) :
    (methods.foldl (fun w (_, function) => w.releaseFunction function) w).withoutOptions =
      methods.foldl (fun w (_, function) => w.releaseFunction function) w.withoutOptions := by
  induction methods generalizing w with
  | nil => rfl
  | cons entry rest ih => rw [List.foldl_cons, List.foldl_cons, ih, withoutOptions_releaseFunction]

/-! ## Adapters -/

theorem withoutOptions_addAdapter (a : Adapter V) :
    Prod.map id withoutOptions (w.addAdapter a) =
      w.withoutOptions.addAdapter a.withoutOptions := by
  simp only [addAdapter, withoutOptions, acquireHandle, Prod.map_apply, List.map_append,
    List.map_cons, List.map_nil, List.length_map, Option.map_some, id_eq]
  rfl

/-- A change of an adapter that does not look at its options can be made with
them unset. -/
theorem withoutOptions_modifyAdapter (adapter : Nat) {f : Adapter V → Adapter V}
    (unread : ∀ a, (f a).withoutOptions = f a.withoutOptions) :
    (w.modifyAdapter adapter f).withoutOptions = w.withoutOptions.modifyAdapter adapter f := by
  have places : (w.adapters.modify adapter (·.map f)).map (·.map Adapter.withoutOptions) =
      (w.adapters.map (·.map Adapter.withoutOptions)).modify adapter (·.map f) := by
    apply List.ext_getElem?
    intro i
    rw [List.getElem?_map, List.getElem?_modify, List.getElem?_modify, List.getElem?_map]
    rcases w.adapters[i]? with _ | _ | a
    · rfl
    · by_cases here : adapter = i <;> simp [here]
    · by_cases here : adapter = i <;> simp [here, unread]
  simp only [modifyAdapter, withoutOptions, places]

theorem withoutOptions_tearDown (adapter : Nat) (a : Adapter V) :
    (w.tearDown adapter a).withoutOptions =
      w.withoutOptions.tearDown adapter a.withoutOptions := by
  rw [tearDown, tearDown, withoutOptions_releaseHandle, withoutOptions_foldl_releaseFunction]
  simp only [withoutOptions, List.map_set, Option.map_none]
  rfl

theorem withoutOptions_settleAdapter (adapter : Nat) :
    (w.settleAdapter adapter).withoutOptions = w.withoutOptions.settleAdapter adapter := by
  rw [settleAdapter, settleAdapter, livingAdapter?_withoutOptions]
  cases w.livingAdapter? adapter with
  | none => rfl
  | some a =>
    have used : a.withoutOptions.isUsed = a.isUsed := rfl
    simp only [Option.map_some, used]
    split
    · rfl
    · rw [withoutOptions_tearDown]

theorem withoutOptions_dropAdapter (adapter : Nat) :
    (w.dropAdapter adapter).withoutOptions = w.withoutOptions.dropAdapter adapter := by
  rw [dropAdapter, withoutOptions_settleAdapter, withoutOptions_modifyAdapter]
  · rfl
  · exact fun _ => rfl

theorem withoutOptions_enterAdapter (adapter : Nat) :
    (w.enterAdapter adapter).withoutOptions = w.withoutOptions.enterAdapter adapter :=
  w.withoutOptions_modifyAdapter adapter fun _ => rfl

theorem withoutOptions_leaveAdapter (adapter : Nat) :
    (w.leaveAdapter adapter).withoutOptions = w.withoutOptions.leaveAdapter adapter := by
  rw [leaveAdapter, withoutOptions_settleAdapter, withoutOptions_modifyAdapter]
  · rfl
  · exact fun _ => rfl

theorem withoutOptions_publish (adapter : Nat) (name : String) (function : Nat) :
    Prod.map id withoutOptions (w.publish adapter name function) =
      w.withoutOptions.publish adapter name function := by
  rw [publish, publish, livingAdapter?_withoutOptions]
  cases w.livingAdapter? adapter with
  | none => rfl
  | some a =>
    have cached : a.withoutOptions.cached? name = a.cached? name := rfl
    simp only [Option.map_some, cached]
    cases a.cached? name with
    | some winner =>
      simp only [Prod.map_apply, withoutOptions_acquireFunction, withoutOptions_releaseFunction,
        id_eq]
    | none =>
      simp only [Prod.map_apply, withoutOptions_acquireFunction, id_eq]
      rw [withoutOptions_modifyAdapter]
      exact fun _ => rfl

end World

end Membrane
