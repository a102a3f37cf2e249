import Mathlib.Logic.Relation
import Membrane.Proofs.Functions
import Membrane.Proofs.MethodCache

/-!
# What a run changes, one change at a time

Every moment of a run comes from every earlier one by single changes. A change
adds an object, an adapter or a numbered handle, lends an instance or gives it
back, lets an array answer a call, makes and publishes a callable, or keeps the
books. What every change preserves holds between any two moments of a run.
-/

namespace Membrane

variable {σ V : Type}

/-- Two adapters that differ at most in their options and in what keeps them
alive. -/
structure Adapter.Alike (a a' : Adapter V) : Prop where
  object : a'.object = a.object
  codec : a'.codec = a.codec
  trampoline : a'.trampoline = a.trampoline
  methods : a'.methods = a.methods

namespace World

/-- Books are kept: adapters are named, used, given options and torn down,
references and owners are counted. Objects and numbered handles stay. -/
structure Tends (w w' : World σ V) : Prop where
  objects : ∀ o, w'.object? o = w.object? o
  handles : w'.handles = w.handles
  numbers : w'.adapters.length = w.adapters.length
  adapters : ∀ i a', w'.livingAdapter? i = some a' →
    ∃ a, w.livingAdapter? i = some a ∧ a.Alike a'
  functions : w.KeepsFunctions w'

/-- One change of a world. -/
inductive Change : World σ V → World σ V → Prop where
  | allocated (w : World σ V) (object : HostObject σ (Request σ V) (Answer σ V)) :
      Change w (w.allocate object).2
  | declared (w : World σ V) (c : HostClass σ (Request σ V) (Answer σ V)) :
      Change w { w with classes := w.classes ++ [c] }
  | numbered (w : World σ V) (ref : ObjectRef) : Change w (w.addHandle ref).2
  /-- An instance is lent or given back, which no array is. -/
  | lent {w : World σ V} (o : Nat)
      {f : HostObject σ (Request σ V) (Answer σ V) → HostObject σ (Request σ V) (Answer σ V)}
      (spares : ∀ array, f (.array array) = .array array) : Change w (w.modifyObject o f)
  /-- An array answers a call. -/
  | stored {w : World σ V} {o : Nat} {array : TypedArray}
      (found : w.object? o = some (.array array)) (call : HostCall) :
      Change w (w.modifyObject o fun _ => .array (HostObject.callArray array call).2)
  | wrapped (w : World σ V) {a : Adapter V} (empty : a.methods = []) : Change w (w.addAdapter a).2
  | tended {w w' : World σ V} (tends : w.Tends w') : Change w w'
  /-- A callable is made for a living adapter, and published. -/
  | resolved {w : World σ V} {i : Nat} {a : Adapter V} {made : Nat × World σ V} (name : String)
      (living : w.livingAdapter? i = some a)
      (mint : made = w.mint ⟨a.object, name⟩ a.trampoline a.codec) :
      Change w (made.2.publish i name made.1).2

/-- One world comes from another by changes. -/
def Becomes : World σ V → World σ V → Prop :=
  Relation.ReflTransGen Change

theorem Becomes.refl (w : World σ V) : w.Becomes w := Relation.ReflTransGen.refl

theorem Becomes.trans {w w' w'' : World σ V} (first : w.Becomes w') (second : w'.Becomes w'') :
    w.Becomes w'' :=
  Relation.ReflTransGen.trans first second

theorem Change.becomes {w w' : World σ V} (change : Change w w') : w.Becomes w' :=
  Relation.ReflTransGen.single change

theorem Tends.becomes {w w' : World σ V} (tends : w.Tends w') : w.Becomes w' :=
  (Change.tended tends).becomes

instance : IsTrans (World σ V) Becomes where
  trans _ _ _ := Becomes.trans

/-! ## Books that are kept -/

/-- Where no adapter is touched, only function objects have to be looked at. -/
theorem tends_of_adapters {w w' : World σ V} (objects : ∀ o, w'.object? o = w.object? o)
    (handles : w'.handles = w.handles) (adapters : w'.adapters = w.adapters)
    (functions : w.KeepsFunctions w') : w.Tends w' where
  objects := objects
  handles := handles
  numbers := congrArg List.length adapters
  adapters i a' living := by
    rw [livingAdapter?_congr adapters] at living
    exact ⟨a', living, rfl, rfl, rfl, rfl⟩
  functions := functions

theorem tends_acquireHandle (w : World σ V) (o : Nat) : w.Tends (w.acquireHandle o) :=
  tends_of_adapters (object?_acquireHandle w o) rfl rfl (.of_functions rfl)

theorem tends_acquireFunction (w : World σ V) (f : Nat) : w.Tends (w.acquireFunction f) :=
  tends_of_adapters (object?_acquireFunction w f) (handles_acquireFunction w f)
    (adapters_acquireFunction w f) (.acquireFunction w f)

theorem tends_releaseFunction (w : World σ V) (f : Nat) : w.Tends (w.releaseFunction f) :=
  tends_of_adapters (object?_releaseFunction w f) (handles_releaseFunction w f)
    (adapters_releaseFunction w f) (.releaseFunction w f)

theorem tends_retain (w : World σ V) (f : Nat) : w.Tends (w.retain f) :=
  tends_of_adapters (object?_retain w f) (handles_retain w f) (adapters_retain w f) (.retain w f)

theorem tends_release (w : World σ V) (f : Nat) : w.Tends (w.release f) :=
  tends_of_adapters (object?_release w f) (handles_release w f) (adapters_release w f)
    (.release w f)

/-- A change of one adapter that keeps what it wraps and what it has cached, and
may tear it down. -/
theorem tends_of_operation {w w' : World σ V} {i : Nat} {f : Adapter V → Adapter V}
    (objects : ∀ o, w'.object? o = w.object? o) (handles : w'.handles = w.handles)
    (numbers : w'.adapters.length = w.adapters.length)
    (adapters : ∀ j, w'.livingAdapter? j =
      if j = i then ((w.livingAdapter? j).map f).filter Adapter.isUsed else w.livingAdapter? j)
    (functions : w.KeepsFunctions w') (alike : ∀ a : Adapter V, a.Alike (f a)) :
    w.Tends w' where
  objects := objects
  handles := handles
  numbers := numbers
  adapters j a' living := by
    rw [adapters] at living
    by_cases same : j = i
    · rw [if_pos same] at living
      obtain ⟨a, found, rfl⟩ := Option.map_eq_some_iff.mp (Option.filter_eq_some_iff.mp living).1
      exact ⟨a, found, alike a⟩
    · rw [if_neg same] at living
      exact ⟨a', living, rfl, rfl, rfl, rfl⟩
  functions := functions

theorem tends_dropAdapter (w : World σ V) (i : Nat) : w.Tends (w.dropAdapter i) :=
  tends_of_operation (w.object?_dropAdapter i) (w.handles_dropAdapter i)
    (w.length_adapters_dropAdapter i) (w.livingAdapter?_dropAdapter i) (.dropAdapter w i)
    fun _ => ⟨rfl, rfl, rfl, rfl⟩

theorem tends_leaveAdapter (w : World σ V) (i : Nat) : w.Tends (w.leaveAdapter i) :=
  tends_of_operation (w.object?_leaveAdapter i) (w.handles_leaveAdapter i)
    (w.length_adapters_leaveAdapter i) (w.livingAdapter?_leaveAdapter i) (.leaveAdapter w i)
    fun _ => ⟨rfl, rfl, rfl, rfl⟩

theorem tends_modifyAdapter (w : World σ V) (i : Nat) {f : Adapter V → Adapter V}
    (alike : ∀ a : Adapter V, a.Alike (f a)) : w.Tends (w.modifyAdapter i f) where
  objects _ := rfl
  handles := rfl
  numbers := w.length_adapters_modifyAdapter i f
  adapters j a' living := by
    rw [livingAdapter?_modifyAdapter] at living
    by_cases same : j = i
    · rw [if_pos same] at living
      obtain ⟨a, found, rfl⟩ := Option.map_eq_some_iff.mp living
      exact ⟨a, found, alike a⟩
    · rw [if_neg same] at living
      exact ⟨a', living, rfl, rfl, rfl, rfl⟩
  functions := .of_functions rfl

theorem tends_enterAdapter (w : World σ V) (i : Nat) : w.Tends (w.enterAdapter i) :=
  w.tends_modifyAdapter i fun _ => ⟨rfl, rfl, rfl, rfl⟩

theorem becomes_handOver (w : World σ V) (i f : Nat) (retain : Bool) :
    w.Becomes (w.handOver i f retain) := by
  cases retain with
  | false => exact (w.tends_leaveAdapter i).becomes
  | true => exact (w.tends_leaveAdapter i).becomes.trans (tends_retain _ f).becomes

theorem becomes_lent (w : World σ V) (o : Nat)
    {f : HostObject σ (Request σ V) (Answer σ V) → HostObject σ (Request σ V) (Answer σ V)}
    (spares : ∀ array, f (.array array) = .array array) : w.Becomes (w.modifyObject o f) :=
  (Change.lent o spares).becomes

/-! ## Adapters -/

/-- Adapters only ever get numbers beyond all earlier ones, and one that lives
later is new or wraps what it wrapped. -/
structure KeepsAdapters (w w' : World σ V) : Prop where
  numbered : w.adapters.length ≤ w'.adapters.length
  living : ∀ i a', w'.livingAdapter? i = some a' → w.adapters.length ≤ i ∨
    ∃ a, w.livingAdapter? i = some a ∧ a'.object = a.object ∧ a'.codec = a.codec ∧
      a'.trampoline = a.trampoline

theorem KeepsAdapters.of_livingAdapter? {w w' : World σ V}
    (numbered : w.adapters.length ≤ w'.adapters.length)
    (same : ∀ i a', w'.livingAdapter? i = some a' → w.adapters.length ≤ i ∨
      w.livingAdapter? i = some a') : w.KeepsAdapters w' where
  numbered := numbered
  living i a' found := (same i a' found).imp_right fun old => ⟨a', old, rfl, rfl, rfl⟩

theorem KeepsAdapters.trans {w w' w'' : World σ V} (first : w.KeepsAdapters w')
    (second : w'.KeepsAdapters w'') : w.KeepsAdapters w'' where
  numbered := Nat.le_trans first.numbered second.numbered
  living i a'' living'' := by
    rcases second.living i a'' living'' with new | ⟨a', living', object', codec', trampoline'⟩
    · exact Or.inl (Nat.le_trans first.numbered new)
    · rcases first.living i a' living' with new | ⟨a, living, object, codec, trampoline⟩
      · exact Or.inl new
      · exact Or.inr ⟨a, living, object'.trans object, codec'.trans codec,
          trampoline'.trans trampoline⟩

theorem Change.keepsAdapters {w w' : World σ V} (change : Change w w') : w.KeepsAdapters w' := by
  cases change with
  | allocated | declared | numbered | lent | stored =>
    exact .of_livingAdapter? (Nat.le_refl _) fun i a' found => Or.inr found
  | wrapped empty =>
    apply KeepsAdapters.of_livingAdapter?
    · simp
    · intro i a' found
      rcases new_or_living_of_addAdapter found with ⟨new, _⟩ | old
      · exact Or.inl (Nat.le_of_eq new.symm)
      · exact Or.inr old
  | tended tends =>
    refine ⟨Nat.le_of_eq tends.numbers.symm, fun i a' living => Or.inr ?_⟩
    obtain ⟨a, found, alike⟩ := tends.adapters i a' living
    exact ⟨a, found, alike.object, alike.codec, alike.trampoline⟩
  | @resolved i a made name living mint =>
    have still : made.2.livingAdapter? i = some a := by
      rw [mint]
      exact living
    refine ⟨by simp [mint], fun j a' found => Or.inr ?_⟩
    rw [livingAdapter?_publish still] at found
    by_cases same : j = i
    · rw [if_pos same] at found
      cases found
      subst same
      refine ⟨a, living, Adapter.object_remember, ?_, ?_⟩
      · rw [Adapter.remember]
        split <;> rfl
      · rw [Adapter.remember]
        split <;> rfl
    · rw [if_neg same, mint] at found
      exact ⟨a', found, rfl, rfl, rfl⟩

theorem Becomes.keepsAdapters {w w' : World σ V} (becomes : w.Becomes w') : w.KeepsAdapters w' := by
  induction becomes with
  | refl => exact .of_livingAdapter? (Nat.le_refl _) fun i a' found => Or.inr found
  | tail _ change ih => exact ih.trans change.keepsAdapters

end World

/-- From every moment of a course changes lead to every later one. -/
theorem Course.becomes {direct} {w w' : World σ V} {t : List (Span σ V)}
    (course : Course direct w t w') : InOrder World.Becomes w t w' := by
  induction course with
  | still w => exact inOrder_nil (.refl w)
  | followed first second ih₁ ih₂ => exact ih₁.append ih₂
  | performed r answer meanwhile ih => exact .span (.refl _) ih (.refl _)
  | allocated w template => exact inOrder_nil (World.Change.allocated w _).becomes
  | declared w c => exact inOrder_nil (World.Change.declared w c).becomes
  | @made _ w object idle =>
    exact inOrder_nil
      ((World.Change.allocated w object).becomes.trans (World.Change.numbered _ _).becomes)
  | wrapped found named idle empty => exact inOrder_nil (World.Change.wrapped _ empty).becomes
  | @dropped _ w adapter _ found => exact inOrder_nil (w.tends_dropAdapter adapter).becomes
  | configured w adapter options =>
    exact inOrder_nil (World.tends_modifyAdapter (f := fun a => { a with options := options }) w
      adapter fun _ => ⟨rfl, rfl, rfl, rfl⟩).becomes
  | released w function => exact inOrder_nil (w.tends_release function).becomes
  | refused refusal => exact .span (.refl _) (inOrder_nil (.refl _)) (.refl _)
  | @stored _ _ _ call _ found =>
    exact .span (.refl _) (inOrder_nil (World.Change.stored found call).becomes) (.refl _)
  | read result found selected reads lent body ih =>
    exact .span (.refl _)
      (.span (World.becomes_lent _ _ fun _ => rfl) ih (World.becomes_lent _ _ fun _ => rfl))
      (.refl _)
  | written result left found selected writes lent body ih =>
    exact .span (.refl _)
      (.span (World.becomes_lent _ _ fun _ => rfl) ih (World.becomes_lent _ _ fun _ => rfl))
      (.refl _)
  | replied outcome found body ih =>
    exact .span (.refl _) (.span (.refl _) ih (.refl _)) (.refl _)
  | held found lent body ih =>
    exact .span (World.becomes_lent _ _ fun _ => rfl) ih (World.becomes_lent _ _ fun _ => rfl)
  | @used _ w w' _ adapter _ found body ih =>
    exact .preceded (w.tends_enterAdapter adapter).becomes
      (ih.continued (w'.tends_leaveAdapter adapter).becomes)
  | @recalled _ w w' _ function kept body ih =>
    exact .preceded (w.tends_acquireFunction function).becomes
      (ih.continued (w'.tends_releaseFunction function).becomes)
  | @missed w adapter _ _ found uncached other =>
    have ended := ((w.enterAdapter adapter).tends_leaveAdapter adapter).becomes
    rw [World.leaveAdapter_enterAdapter found] at ended
    exact .span (w.tends_enterAdapter adapter).becomes (inOrder_nil (.refl _)) ended
  | @hit w w' _ adapter function _ _ retain found cached use ih =>
    have resolved := inOrder_nil ((w.enterAdapter adapter).tends_acquireFunction function).becomes
    have handed := World.becomes_handOver ((w.enterAdapter adapter).acquireFunction function)
      adapter function retain
    exact (InOrder.span (w.tends_enterAdapter adapter).becomes resolved handed).append
      (ih.continued (w'.tends_releaseFunction function).becomes)
  | @minted w w₁ w₂ t t' adapter name a made published retain found uncached isMethod hooks mint
      publish use ih₁ ih₂ =>
    have entered := w.livingAdapter?_enterAdapter_of_adapter? found
    have owned := ((w.enterAdapter adapter).tends_acquireHandle a.object.id).becomes
    -- The adapter lives on during the hooks and wraps what it wrapped.
    obtain ⟨b, living⟩ := (hooks.retains adapter).1.operated _ entered (Nat.succ_pos _)
    have published_change : World.Change w₁ published.2 := by
      rcases ih₁.ends.keepsAdapters.living adapter b living with
        new | ⟨a', found', object, codec, trampoline⟩
      · exact absurd (World.lt_length_of_livingAdapter? entered) (Nat.not_lt_of_le new)
      · cases entered.symm.trans found'
        rw [publish]
        apply World.Change.resolved name living
        rw [mint, object, codec, trampoline]
    have handed := World.becomes_handOver published.2 adapter published.1 retain
    exact (InOrder.span (w.tends_enterAdapter adapter).becomes
      ((ih₁.preceded owned).continued published_change.becomes) handed).append
      (ih₂.continued (w₂.tends_releaseFunction published.1).becomes)

end Membrane
