import Membrane.Proofs.Objects

/-!
# Function objects and numbered handles under the changes of a world

A function object has its number for good. What it is bound to, its trampoline
and its codec are set when it is made; afterwards only the number of references
to it changes. Numbered handles notice none of that.
-/

namespace Membrane

variable {σ V : Type}

namespace World

/-- A function object is found in the list of functions alone. -/
theorem function?_congr {w w' : World σ V} (same : w'.functions = w.functions) (f : Nat) :
    w'.function? f = w.function? f := by
  rw [function?, same]
  rfl

theorem function?_modifyFunction (w : World σ V) (f i : Nat)
    (g : FunctionObject V → FunctionObject V) :
    (w.modifyFunction f g).function? i =
      if i = f then (w.function? i).map g else w.function? i := by
  by_cases zero : i = 0
  · subst zero
    simp [function?]
  · by_cases same : i = f
    · subst same
      simp [function?, modifyFunction, zero]
    · by_cases none : f = 0
      · simp [modifyFunction, none, zero]
      · have other : f - 1 ≠ i - 1 := by omega
        simp [function?, modifyFunction, zero, none, same, other]

/-- What holds of each change of which tearing an adapter down consists holds of
settling an adapter. -/
theorem settleAdapter_induction {R : World σ V → World σ V → Prop} (refl : ∀ w, R w w)
    (trans : ∀ {w w' w''}, R w w' → R w' w'' → R w w'')
    (adapters : ∀ w places, R w { w with adapters := places })
    (function : ∀ w f, R w (w.releaseFunction f)) (handle : ∀ w o, R w (w.releaseHandle o))
    (w : World σ V) (i : Nat) : R w (w.settleAdapter i) := by
  have released : ∀ (methods : List (String × Nat)) (w : World σ V),
      R w (methods.foldl (fun w entry => w.releaseFunction entry.2) w) := by
    intro methods
    induction methods with
    | nil => exact refl
    | cons entry rest ih => exact fun w => trans (function w entry.2) (ih _)
  rw [settleAdapter]
  cases w.livingAdapter? i with
  | none => exact refl w
  | some a =>
    dsimp only
    split
    · exact refl w
    · exact trans (trans (adapters w _) (released a.methods _)) (handle _ _)

/-- Only the number of references to a function object changes, if anything
does. -/
def KeepsFunctions (w w' : World σ V) : Prop :=
  ∀ f g, w.function? f = some g → ∃ count, w'.function? f = some { g with references := count }

namespace KeepsFunctions

variable {w w' w'' : World σ V}

theorem of_functions (same : w'.functions = w.functions) : w.KeepsFunctions w' := by
  intro f g found
  exact ⟨g.references, (function?_congr same f).trans found⟩

theorem trans (first : w.KeepsFunctions w') (second : w'.KeepsFunctions w'') :
    w.KeepsFunctions w'' := by
  intro f g found
  obtain ⟨_, found'⟩ := first f g found
  obtain ⟨count, found''⟩ := second f _ found'
  exact ⟨count, found''⟩

theorem preceded (later : w'.KeepsFunctions w'') (same : w'.functions = w.functions) :
    w.KeepsFunctions w'' :=
  (of_functions same).trans later

/-- Counting references changes nothing else of a function object. -/
theorem modifyFunction (w : World σ V) (f : Nat) (count : Nat → Nat) :
    w.KeepsFunctions
      (w.modifyFunction f fun g => { g with references := count g.references }) := by
  intro i g found
  rw [function?_modifyFunction, found]
  by_cases same : i = f
  · exact ⟨count g.references, by rw [if_pos same, Option.map_some]⟩
  · exact ⟨g.references, if_neg same⟩

theorem acquireFunction (w : World σ V) (f : Nat) : w.KeepsFunctions (w.acquireFunction f) :=
  modifyFunction w f (· + 1)

theorem releaseFunction (w : World σ V) (f : Nat) : w.KeepsFunctions (w.releaseFunction f) := by
  rw [World.releaseFunction]
  cases w.function? f with
  | none => exact of_functions rfl
  | some g =>
    have counted := modifyFunction w f (· - 1)
    by_cases last : g.references = 1
    · simp only [last, if_true]
      exact counted.trans (of_functions rfl)
    · simp only [last, if_false]
      exact counted

theorem settleAdapter (w : World σ V) (i : Nat) : w.KeepsFunctions (w.settleAdapter i) :=
  settleAdapter_induction (fun _ => of_functions rfl) trans (fun _ _ => of_functions rfl)
    releaseFunction (fun _ _ => of_functions rfl) w i

theorem dropAdapter (w : World σ V) (i : Nat) : w.KeepsFunctions (w.dropAdapter i) :=
  (settleAdapter (w.modifyAdapter i _) i).preceded rfl

theorem leaveAdapter (w : World σ V) (i : Nat) : w.KeepsFunctions (w.leaveAdapter i) :=
  (settleAdapter (w.modifyAdapter i _) i).preceded rfl

theorem retain (w : World σ V) (f : Nat) : w.KeepsFunctions (w.retain f) := by
  rw [World.retain]
  split
  · exact of_functions rfl
  · exact (acquireFunction w f).trans (of_functions rfl)

theorem release (w : World σ V) (f : Nat) : w.KeepsFunctions (w.release f) := by
  rw [World.release]
  split
  · exact (releaseFunction { w with retained := w.retained.erase f } f).preceded rfl
  · exact of_functions rfl

end KeepsFunctions

/-- A function object that is made gets the next number, and the others stay. -/
theorem function?_mint (w : World σ V) (binding : Binding) (trampoline : Trampoline)
    (codec : Codec V) (i : Nat) :
    (w.mint binding trampoline codec).2.function? i =
      if i = w.functions.length + 1 then some ⟨binding, trampoline, codec, 1⟩
      else w.function? i := by
  by_cases zero : i = 0
  · subst zero
    simp [function?]
  · simp only [function?, zero, if_false, mint, getElem?_concat]
    by_cases new : i = w.functions.length + 1
    · rw [if_pos new, if_pos (by omega)]
    · rw [if_neg new, if_neg (by omega)]

theorem function?_mint_new (w : World σ V) (binding : Binding) (trampoline : Trampoline)
    (codec : Codec V) :
    (w.mint binding trampoline codec).2.function? (w.mint binding trampoline codec).1 =
      some ⟨binding, trampoline, codec, 1⟩ :=
  (function?_mint w binding trampoline codec _).trans (if_pos rfl)

/-- Function objects have numbers that were given out. -/
theorem le_length_of_function? {w : World σ V} {f : Nat} {g : FunctionObject V}
    (found : w.function? f = some g) : 0 < f ∧ f ≤ w.functions.length := by
  by_cases zero : f = 0
  · simp [function?, zero] at found
  · simp only [function?, zero, if_false] at found
    have inside := (List.getElem?_eq_some_iff.mp found).1
    omega

theorem KeepsFunctions.mint (w : World σ V) (binding : Binding) (trampoline : Trampoline)
    (codec : Codec V) : w.KeepsFunctions (w.mint binding trampoline codec).2 := by
  intro f g found
  have old := le_length_of_function? found
  exact ⟨g.references, by rw [function?_mint, if_neg (by omega), found]⟩

theorem KeepsFunctions.publish (w : World σ V) (i : Nat) (name : String) (f : Nat) :
    w.KeepsFunctions (w.publish i name f).2 := by
  rw [World.publish]
  cases w.livingAdapter? i with
  | none => exact of_functions rfl
  | some a =>
    cases cached : a.cached? name with
    | some winner =>
      simp only [cached]
      exact (releaseFunction w f).trans (acquireFunction _ winner)
    | none =>
      simp only [cached]
      exact (acquireFunction (w.modifyAdapter i _) f).preceded rfl

/-! ## Numbered handles -/

@[simp] theorem handles_modifyFunction (w : World σ V) (f : Nat)
    (g : FunctionObject V → FunctionObject V) : (w.modifyFunction f g).handles = w.handles := by
  by_cases zero : f = 0 <;> simp [modifyFunction, zero]

@[simp] theorem handles_acquireFunction (w : World σ V) (f : Nat) :
    (w.acquireFunction f).handles = w.handles :=
  handles_modifyFunction w f _

@[simp] theorem handles_releaseFunction (w : World σ V) (f : Nat) :
    (w.releaseFunction f).handles = w.handles := by
  simp only [releaseFunction]
  cases w.function? f with
  | none => rfl
  | some g => by_cases last : g.references = 1 <;> simp [last, releaseHandle]

@[simp] theorem handles_settleAdapter (w : World σ V) (i : Nat) :
    (w.settleAdapter i).handles = w.handles :=
  settleAdapter_induction (R := fun w w' => w'.handles = w.handles) (fun _ => rfl)
    (fun first second => second.trans first) (fun _ _ => rfl) handles_releaseFunction
    (fun _ _ => rfl) w i

@[simp] theorem handles_dropAdapter (w : World σ V) (i : Nat) :
    (w.dropAdapter i).handles = w.handles :=
  handles_settleAdapter (w.modifyAdapter i _) i

@[simp] theorem handles_leaveAdapter (w : World σ V) (i : Nat) :
    (w.leaveAdapter i).handles = w.handles :=
  handles_settleAdapter (w.modifyAdapter i _) i

@[simp] theorem handles_retain (w : World σ V) (f : Nat) : (w.retain f).handles = w.handles := by
  rw [retain]
  split
  · rfl
  · exact handles_acquireFunction w f

@[simp] theorem handles_release (w : World σ V) (f : Nat) : (w.release f).handles = w.handles := by
  rw [release]
  split
  · exact handles_releaseFunction _ f
  · rfl

@[simp] theorem handles_publish (w : World σ V) (i : Nat) (name : String) (f : Nat) :
    (w.publish i name f).2.handles = w.handles := by
  rw [publish]
  cases w.livingAdapter? i with
  | none => rfl
  | some a => cases cached : a.cached? name <;> simp [cached, modifyAdapter]

end World

end Membrane
