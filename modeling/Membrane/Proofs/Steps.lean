import Mathlib.Data.List.Infix
import Mathlib.Logic.Relation
import Membrane.Proofs.Course
import Membrane.Proofs.Moments

/-!
# Courses in single steps

From every moment of a course single steps lead to every later one. A step adds
an object or changes one without changing its members, keeps the books, wraps an
object, or publishes a callable. What every step preserves holds between any two
moments of a run: objects keep their members, and the callables of a living
adapter are only ever added to.
-/

namespace Membrane

variable {σ V : Type}

namespace Adapter

/-- An adapter that was offered a callable for a name; one that it has already
stays. -/
def remember (a : Adapter V) (name : String) (function : Nat) : Adapter V :=
  match a.cached? name with
  | some _ => a
  | none => { a with methods := a.methods ++ [(name, function)] }

variable {a : Adapter V} {name : String} {function winner : Nat}

theorem mem_methods_of_cached? (cached : a.cached? name = some function) :
    (name, function) ∈ a.methods := by
  obtain ⟨earlier, later, methods, _⟩ := List.lookup_eq_some_iff.mp cached
  rw [methods]
  exact List.mem_append_right earlier List.mem_cons_self

theorem remember_of_cached? (cached : a.cached? name = some winner) :
    a.remember name function = a := by
  simp only [remember, cached]

theorem methods_remember (uncached : a.cached? name = none) :
    (a.remember name function).methods = a.methods ++ [(name, function)] := by
  simp only [remember, uncached]

theorem cached?_remember_of_uncached (uncached : a.cached? name = none) :
    (a.remember name function).cached? name = some function := by
  rw [cached?, methods_remember uncached, List.lookup_append]
  rw [cached?] at uncached
  simp [uncached]

/-- Only the name that was offered can be cached anew. -/
theorem cached?_remember_iff {n : String} {g : Nat} :
    (a.remember name function).cached? n = some g ↔
      a.cached? n = some g ∨ n = name ∧ (a.remember name function).cached? name = some g := by
  cases cached : a.cached? name with
  | some winner =>
    rw [remember_of_cached? cached]
    constructor
    · exact Or.inl
    · rintro (known | ⟨rfl, known⟩)
      · exact known
      · exact known
  | none =>
    by_cases same : n = name
    · subst same
      simp [cached]
    · have other : [(name, function)].lookup n = none := by
        rw [List.lookup_eq_none_iff]
        intro entry last
        cases List.mem_singleton.mp last
        exact bne_iff_ne.mpr same
      rw [cached?, methods_remember cached, List.lookup_append, other, Option.or_none]
      exact (or_iff_left fun both => same both.1).symm

@[simp] theorem object_remember : (a.remember name function).object = a.object := by
  rw [remember]
  split <;> rfl

@[simp] theorem running_remember : (a.remember name function).running = a.running := by
  rw [remember]
  split <;> rfl

theorem isUsed_remember : (a.remember name function).isUsed = a.isUsed := by
  rw [remember]
  split <;> rfl

end Adapter

namespace World

/-- The callables of an adapter, while it lives. -/
def callables (w : World σ V) (i : Nat) : List (String × Nat) :=
  match w.livingAdapter? i with
  | some a => a.methods
  | none => []

theorem callables_of_livingAdapter? {w : World σ V} {i : Nat} {a : Adapter V}
    (living : w.livingAdapter? i = some a) : w.callables i = a.methods := by
  rw [callables, living]

theorem callables_of_none {w : World σ V} {i : Nat} (gone : w.livingAdapter? i = none) :
    w.callables i = [] := by
  rw [callables, gone]

theorem livingAdapter?_eq_none {w : World σ V} {i : Nat} (beyond : w.adapters.length ≤ i) :
    w.livingAdapter? i = none := by
  rw [livingAdapter?, List.getElem?_eq_none beyond]
  rfl

section Publish

variable {w : World σ V} {adapter : Nat} {name : String} {function : Nat} {a : Adapter V}

/-- Publishing lets one adapter remember a callable. -/
theorem livingAdapter?_publish (living : w.livingAdapter? adapter = some a) (i : Nat) :
    (w.publish adapter name function).2.livingAdapter? i =
      if i = adapter then some (a.remember name function) else w.livingAdapter? i := by
  cases cached : a.cached? name with
  | some winner =>
    rw [Adapter.remember_of_cached? cached]
    simp only [publish, living, cached]
    rw [livingAdapter?_congr (by simp : _ = w.adapters)]
    by_cases same : i = adapter
    · rw [if_pos same, same, living]
    · rw [if_neg same]
  | none =>
    simp only [publish, living, cached]
    rw [livingAdapter?_congr (adapters_acquireFunction _ _), livingAdapter?_modifyAdapter]
    by_cases same : i = adapter
    · rw [if_pos same, if_pos same, same, living]
      simp only [Adapter.remember, cached, Option.map_some]
    · rw [if_neg same, if_neg same]

theorem publish_of_none (gone : w.livingAdapter? adapter = none) :
    w.publish adapter name function = (function, w) := by
  simp only [publish, gone]

@[simp] theorem length_adapters_publish :
    (w.publish adapter name function).2.adapters.length = w.adapters.length := by
  cases living : w.livingAdapter? adapter with
  | none => rw [publish_of_none living]
  | some a => cases cached : a.cached? name <;> simp [publish, living, cached]

/-- What is published is what the adapter remembers. -/
theorem cached?_remember (living : w.livingAdapter? adapter = some a) :
    (a.remember name function).cached? name = some (w.publish adapter name function).1 := by
  cases cached : a.cached? name with
  | some winner =>
    rw [Adapter.remember_of_cached? cached, cached]
    simp only [publish, living, cached]
  | none =>
    rw [Adapter.cached?_remember_of_uncached cached]
    simp only [publish, living, cached]

end Publish

/-- One step of a world, so far as its objects and its adapters see it. -/
inductive Step : World σ V → World σ V → Prop where
  | allocated (w : World σ V) (object : HostObject σ (Request σ V) (Answer σ V)) :
      Step w (w.allocate object).2
  | changed {w : World σ V} {o : Nat}
      {f : HostObject σ (Request σ V) (Answer σ V) → HostObject σ (Request σ V) (Answer σ V)}
      (shown : ∀ object, w.object? o = some object →
        (f object).surface.members = object.surface.members) : Step w (w.modifyObject o f)
  /-- Books are kept: adapters are named, used and torn down, handles and
  functions counted. -/
  | tended {w w' : World σ V} (objects : ∀ o, w'.object? o = w.object? o)
      (numbers : w'.adapters.length = w.adapters.length)
      (adapters : ∀ i a', w'.livingAdapter? i = some a' →
        ∃ a, w.livingAdapter? i = some a ∧ a'.object = a.object ∧ a'.methods = a.methods) :
      Step w w'
  | wrapped (w : World σ V) {a : Adapter V} (empty : a.methods = []) : Step w (w.addAdapter a).2
  | published {w : World σ V} {adapter : Nat} {name : String} (function : Nat)
      (isMethod : ∀ a, w.livingAdapter? adapter = some a →
        ((w.surface a.object).members name).head? = some .method) :
      Step w (w.publish adapter name function).2

/-- Steps lead from one world to another. -/
def Leads : World σ V → World σ V → Prop :=
  Relation.ReflTransGen Step

theorem Leads.refl (w : World σ V) : w.Leads w := Relation.ReflTransGen.refl

theorem Leads.trans {w w' w'' : World σ V} (first : w.Leads w') (second : w'.Leads w'') :
    w.Leads w'' :=
  Relation.ReflTransGen.trans first second

theorem Step.leads {w w' : World σ V} (step : Step w w') : w.Leads w' :=
  Relation.ReflTransGen.single step

instance : IsTrans (World σ V) Leads where
  trans _ _ _ := Leads.trans

/-- Steps that neither objects nor adapters see. -/
theorem leads_of_same {w w' : World σ V} (objects : ∀ o, w'.object? o = w.object? o)
    (adapters : w'.adapters = w.adapters) : w.Leads w' := by
  apply Step.leads
  apply Step.tended objects (congrArg List.length adapters)
  intro i a' living
  rw [livingAdapter?_congr adapters] at living
  exact ⟨a', living, rfl, rfl⟩

/-- An operation on an adapter that is no resolution changes neither its object
nor its callables. -/
theorem leads_of_tended {w w' : World σ V} {adapter : Nat} {f : Adapter V → Adapter V}
    (objects : ∀ o, w'.object? o = w.object? o)
    (numbers : w'.adapters.length = w.adapters.length)
    (adapters : ∀ i, w'.livingAdapter? i =
      if i = adapter then ((w.livingAdapter? i).map f).filter Adapter.isUsed
      else w.livingAdapter? i)
    (tends : ∀ a, (f a).object = a.object ∧ (f a).methods = a.methods) : w.Leads w' := by
  apply Step.leads
  apply Step.tended objects numbers
  intro i a' living
  rw [adapters] at living
  by_cases same : i = adapter
  · rw [if_pos same] at living
    obtain ⟨a, found, rfl⟩ := Option.map_eq_some_iff.mp (Option.filter_eq_some_iff.mp living).1
    exact ⟨a, found, tends a⟩
  · rw [if_neg same] at living
    exact ⟨a', living, rfl, rfl⟩

theorem leads_dropAdapter (w : World σ V) (adapter : Nat) : w.Leads (w.dropAdapter adapter) :=
  leads_of_tended (w.object?_dropAdapter adapter) (w.length_adapters_dropAdapter adapter)
    (w.livingAdapter?_dropAdapter adapter) fun _ => ⟨rfl, rfl⟩

theorem leads_leaveAdapter (w : World σ V) (adapter : Nat) : w.Leads (w.leaveAdapter adapter) :=
  leads_of_tended (w.object?_leaveAdapter adapter) (w.length_adapters_leaveAdapter adapter)
    (w.livingAdapter?_leaveAdapter adapter) fun _ => ⟨rfl, rfl⟩

theorem leads_modifyAdapter (w : World σ V) (adapter : Nat) {f : Adapter V → Adapter V}
    (tends : ∀ a, (f a).object = a.object ∧ (f a).methods = a.methods) :
    w.Leads (w.modifyAdapter adapter f) := by
  have objects : ∀ o, (w.modifyAdapter adapter f).object? o = w.object? o := fun _ => rfl
  apply Step.leads
  apply Step.tended objects (w.length_adapters_modifyAdapter adapter f)
  intro i a' living
  rw [livingAdapter?_modifyAdapter] at living
  by_cases same : i = adapter
  · rw [if_pos same] at living
    obtain ⟨a, found, rfl⟩ := Option.map_eq_some_iff.mp living
    exact ⟨a, found, tends a⟩
  · rw [if_neg same] at living
    exact ⟨a', living, rfl, rfl⟩

theorem leads_enterAdapter (w : World σ V) (adapter : Nat) : w.Leads (w.enterAdapter adapter) :=
  w.leads_modifyAdapter adapter fun _ => ⟨rfl, rfl⟩

/-! ## What steps preserve -/

theorem Step.numbered {w w' : World σ V} (step : Step w w') :
    w.adapters.length ≤ w'.adapters.length := by
  cases step with
  | allocated | changed shown => exact Nat.le_refl _
  | tended objects numbers adapters => exact Nat.le_of_eq numbers.symm
  | wrapped empty => simp
  | published function isMethod => exact Nat.le_of_eq length_adapters_publish.symm

/-- Objects stay, with the members that they have. -/
theorem Step.members {w w' : World σ V} (step : Step w w') {o : Nat}
    {object : HostObject σ (Request σ V) (Answer σ V)} (found : w.object? o = some object) :
    ∃ object', w'.object? o = some object' ∧
      object'.surface.members = object.surface.members := by
  cases step with
  | allocated new => exact ⟨object, (object?_allocate_of_some found new).trans found, rfl⟩
  | @changed i f shown =>
    by_cases same : o = i
    · subst same
      have changed : (w.modifyObject o f).object? o = some (f object) := by
        rw [object?_modifyObject, if_pos rfl, found, Option.map_some]
      exact ⟨f object, changed, shown object found⟩
    · exact ⟨object, (object?_modifyObject_ne same f).trans found, rfl⟩
  | tended objects numbers adapters => exact ⟨object, (objects o).trans found, rfl⟩
  | wrapped empty => exact ⟨object, (object?_addAdapter w _ o).trans found, rfl⟩
  | published function isMethod => exact ⟨object, (object?_publish ..).trans found, rfl⟩

theorem Leads.members {w w' : World σ V} (leads : w.Leads w') {o : Nat}
    {object : HostObject σ (Request σ V) (Answer σ V)} (found : w.object? o = some object) :
    ∃ object', w'.object? o = some object' ∧
      object'.surface.members = object.surface.members := by
  induction leads with
  | refl => exact ⟨object, found, rfl⟩
  | tail _ step ih =>
    obtain ⟨object', found', same⟩ := ih
    obtain ⟨object'', found'', same'⟩ := step.members found'
    exact ⟨object'', found'', same'.trans same⟩

/-- What is a method first stays one. -/
theorem Leads.isMethod {w w' : World σ V} (leads : w.Leads w') {ref : ObjectRef} {name : String}
    (isMethod : ((w.surface ref).members name).head? = some .method) :
    ((w'.surface ref).members name).head? = some .method := by
  cases found : w.object? ref.id with
  | none =>
    rw [surface, found] at isMethod
    cases isMethod
  | some object =>
    obtain ⟨object', found', same⟩ := leads.members found
    rw [surface, found] at isMethod
    rw [surface, found']
    simpa only [same] using isMethod

/-- Where a living adapter has its callables from: it had them already, it is
new and has none, or one was published for a name that had none. -/
theorem Step.callables_cases {w w' : World σ V} (step : Step w w') {i : Nat} {a' : Adapter V}
    (living : w'.livingAdapter? i = some a') :
    (∃ a, w.livingAdapter? i = some a ∧ a'.object = a.object ∧ a'.methods = a.methods) ∨
    (w.adapters.length ≤ i ∧ a'.methods = []) ∨
    (∃ a name function, w.livingAdapter? i = some a ∧ a'.object = a.object ∧
      a.cached? name = none ∧ ((w.surface a.object).members name).head? = some .method ∧
      a'.methods = a.methods ++ [(name, function)]) := by
  cases step with
  | allocated | changed shown => exact Or.inl ⟨a', living, rfl, rfl⟩
  | tended objects numbers adapters => exact Or.inl (adapters i a' living)
  | wrapped empty =>
    rcases new_or_living_of_addAdapter living with ⟨new, rfl⟩ | old
    · exact Or.inr (Or.inl ⟨Nat.le_of_eq new.symm, empty⟩)
    · exact Or.inl ⟨a', old, rfl, rfl⟩
  | @published adapter name function isMethod =>
    cases found : w.livingAdapter? adapter with
    | none =>
      rw [publish_of_none found] at living
      exact Or.inl ⟨a', living, rfl, rfl⟩
    | some a =>
      rw [livingAdapter?_publish found] at living
      by_cases same : i = adapter
      · rw [if_pos same] at living
        cases living
        subst same
        cases cached : a.cached? name with
        | some winner =>
          exact Or.inl ⟨a, found, by simp, by rw [Adapter.remember_of_cached? cached]⟩
        | none =>
          exact Or.inr (Or.inr ⟨a, name, function, found, by simp, cached, isMethod a found,
            Adapter.methods_remember cached⟩)
      · rw [if_neg same] at living
        exact Or.inl ⟨a', living, rfl, rfl⟩

/-- The callables of an adapter from one world to a later one: what was torn
down stays so, and while the adapter lives it keeps its object and every
callable, in its place. -/
structure Grows (i : Nat) (w w' : World σ V) : Prop where
  numbered : w.adapters.length ≤ w'.adapters.length
  gone : i < w.adapters.length → w.livingAdapter? i = none → w'.livingAdapter? i = none
  object : ∀ a a', w.livingAdapter? i = some a → w'.livingAdapter? i = some a' →
    a'.object = a.object
  kept : ∀ a', w'.livingAdapter? i = some a' → w.callables i <+: a'.methods

/-- Where an adapter stays as it is, nothing is lost. -/
theorem Grows.of_same {i : Nat} {w w' : World σ V}
    (numbered : w.adapters.length ≤ w'.adapters.length)
    (same : w'.livingAdapter? i = w.livingAdapter? i) : Grows i w w' where
  numbered := numbered
  gone _ none := same.trans none
  object a a' found found' := by
    cases (same.trans found).symm.trans found'
    rfl
  kept a' found := by
    rw [callables_of_livingAdapter? (same.symm.trans found)]

/-- Nothing is lost where an adapter remembers. -/
theorem Grows.of_remember {i : Nat} {w w' : World σ V} {a : Adapter V} {name : String}
    {function : Nat} (numbers : w'.adapters.length = w.adapters.length)
    (living : w.livingAdapter? i = some a)
    (living' : w'.livingAdapter? i = some (a.remember name function)) : Grows i w w' where
  numbered := Nat.le_of_eq numbers.symm
  gone _ none := by cases living.symm.trans none
  object b b' found found' := by
    cases living.symm.trans found
    cases living'.symm.trans found'
    exact Adapter.object_remember
  kept b' found := by
    cases living'.symm.trans found
    rw [callables_of_livingAdapter? living]
    cases cached : a.cached? name with
    | some winner =>
      rw [Adapter.remember_of_cached? cached]
    | none =>
      rw [Adapter.methods_remember cached]
      exact List.prefix_append _ _

/-- An adapter that lives later lived before, or had no number yet. -/
theorem Grows.living_or_new {i : Nat} {w w' : World σ V} (grows : Grows i w w') {a' : Adapter V}
    (living : w'.livingAdapter? i = some a') :
    (∃ a, w.livingAdapter? i = some a) ∨ w.adapters.length ≤ i := by
  cases found : w.livingAdapter? i with
  | some a => exact Or.inl ⟨a, rfl⟩
  | none =>
    by_cases inside : i < w.adapters.length
    · rw [grows.gone inside found] at living
      cases living
    · exact Or.inr (Nat.le_of_not_lt inside)

theorem Grows.trans {i : Nat} {w w' w'' : World σ V} (first : Grows i w w')
    (second : Grows i w' w'') : Grows i w w'' where
  numbered := Nat.le_trans first.numbered second.numbered
  gone inside none :=
    second.gone (Nat.lt_of_lt_of_le inside first.numbered) (first.gone inside none)
  object a a'' found found'' := by
    rcases second.living_or_new found'' with ⟨a', found'⟩ | new
    · exact (second.object a' a'' found' found'').trans (first.object a a' found found')
    · have inside := lt_length_of_livingAdapter? found
      exact absurd (Nat.lt_of_lt_of_le inside first.numbered) (Nat.not_lt_of_le new)
  kept a'' found'' := by
    rcases second.living_or_new found'' with ⟨a', found'⟩ | new
    · have later := second.kept a'' found''
      rw [callables_of_livingAdapter? found'] at later
      exact (first.kept a' found').trans later
    · rw [callables_of_none (livingAdapter?_eq_none (Nat.le_trans first.numbered new))]
      exact List.nil_prefix

theorem Step.grows {w w' : World σ V} (step : Step w w') (i : Nat) : Grows i w w' where
  numbered := step.numbered
  gone inside none := by
    cases living : w'.livingAdapter? i with
    | none => rfl
    | some a' =>
      rcases step.callables_cases living with ⟨a, found, _⟩ | ⟨new, _⟩ | ⟨a, _, _, found, _⟩
      · rw [none] at found
        cases found
      · exact absurd inside (Nat.not_lt_of_le new)
      · rw [none] at found
        cases found
  object a a' found living := by
    rcases step.callables_cases living with ⟨b, found', same, _⟩ | ⟨new, _⟩ |
      ⟨b, _, _, found', same, _⟩
    · cases found.symm.trans found'
      exact same
    · exact absurd (lt_length_of_livingAdapter? found) (Nat.not_lt_of_le new)
    · cases found.symm.trans found'
      exact same
  kept a' living := by
    rcases step.callables_cases living with ⟨a, found, _, same⟩ | ⟨new, _⟩ |
      ⟨a, name, function, found, _, _, _, added⟩
    · rw [callables_of_livingAdapter? found, same]
    · rw [callables_of_none (livingAdapter?_eq_none new)]
      exact List.nil_prefix
    · rw [callables_of_livingAdapter? found, added]
      exact List.prefix_append _ _

theorem Leads.grows {w w' : World σ V} (leads : w.Leads w') (i : Nat) : Grows i w w' := by
  induction leads with
  | refl => exact .of_same (Nat.le_refl _) rfl
  | tail _ step ih => exact ih.trans (step.grows i)

/-- Every living adapter caches a name once, and only names whose first member is
a method. -/
structure CachesMethods (w : World σ V) : Prop where
  nodup : ∀ i a, w.livingAdapter? i = some a → (a.methods.map Prod.fst).Nodup
  isMethod : ∀ i a name function, w.livingAdapter? i = some a → (name, function) ∈ a.methods →
    ((w.surface a.object).members name).head? = some .method

theorem cachesMethods_empty : (empty : World σ V).CachesMethods where
  nodup i a living := by cases living
  isMethod i a name function living := by cases living

/-- A name that is not cached is not among the names. -/
theorem not_mem_of_cached?_eq_none {a : Adapter V} {name : String}
    (uncached : a.cached? name = none) : name ∉ a.methods.map Prod.fst := by
  intro mem
  obtain ⟨entry, mem, same⟩ := List.mem_map.mp mem
  have different := List.lookup_eq_none_iff.mp uncached entry mem
  simp [same] at different

theorem Step.cachesMethods {w w' : World σ V} (step : Step w w') (caches : w.CachesMethods) :
    w'.CachesMethods where
  nodup i a' living := by
    rcases step.callables_cases living with ⟨a, found, _, same⟩ | ⟨_, empty⟩ |
      ⟨a, name, function, found, _, uncached, _, added⟩
    · rw [same]
      exact caches.nodup i a found
    · rw [empty]
      exact List.nodup_nil
    · rw [added, List.map_append]
      apply List.nodup_append.mpr
      refine ⟨caches.nodup i a found, by simp, ?_⟩
      rintro _ mem _ last rfl
      cases List.mem_singleton.mp last
      exact not_mem_of_cached?_eq_none uncached mem
  isMethod i a' name function living mem := by
    rcases step.callables_cases living with ⟨a, found, object, same⟩ | ⟨_, empty⟩ |
      ⟨a, last, made, found, object, _, isMethod, added⟩
    · rw [same] at mem
      rw [object]
      exact step.leads.isMethod (caches.isMethod i a name function found mem)
    · rw [empty] at mem
      cases mem
    · rw [added] at mem
      rw [object]
      apply step.leads.isMethod
      rcases List.mem_append.mp mem with old | new
      · exact caches.isMethod i a name function found old
      · cases List.mem_singleton.mp new
        exact isMethod

theorem Leads.cachesMethods {w w' : World σ V} (leads : w.Leads w') (caches : w.CachesMethods) :
    w'.CachesMethods := by
  induction leads with
  | refl => exact caches
  | tail _ step ih => exact step.cachesMethods ih

/-! ## Borrowing and giving back -/

/-- A change of an object that keeps its members is a step. -/
theorem leads_modifyObject {w : World σ V} {o : Nat}
    {f : HostObject σ (Request σ V) (Answer σ V) → HostObject σ (Request σ V) (Answer σ V)}
    (shown : ∀ object, w.object? o = some object →
      (f object).surface.members = object.surface.members) : w.Leads (w.modifyObject o f) := by
  apply Step.leads
  exact .changed shown

theorem leads_withLease (w : World σ V) (o : Nat) (lease : Lease) :
    w.Leads (w.modifyObject o (.withLease lease)) := by
  apply leads_modifyObject
  intro object _
  cases object <;> rfl

theorem leads_endRead (w : World σ V) (o : Nat) : w.Leads (w.modifyObject o .endRead) := by
  apply leads_modifyObject
  intro object _
  cases object <;> rfl

theorem leads_endWrite (w : World σ V) (o : Nat) (state : σ) :
    w.Leads (w.modifyObject o (.endWrite state)) := by
  apply leads_modifyObject
  intro object _
  cases object <;> rfl

theorem leads_array {w : World σ V} {o : Nat} {a : TypedArray}
    (found : w.object? o = some (.array a)) (changed : TypedArray) :
    w.Leads (w.modifyObject o fun _ => .array changed) := by
  apply leads_modifyObject
  intro object same
  cases found.symm.trans same
  rfl

theorem leads_addObject (w : World σ V) (object : HostObject σ (Request σ V) (Answer σ V)) :
    w.Leads (w.addObject object).2 :=
  (Step.allocated w object).leads.trans (leads_of_same (object?_addHandle _ _) rfl)

theorem leads_acquireFunction (w : World σ V) (function : Nat) :
    w.Leads (w.acquireFunction function) :=
  leads_of_same (w.object?_acquireFunction function) (w.adapters_acquireFunction function)

theorem leads_releaseFunction (w : World σ V) (function : Nat) :
    w.Leads (w.releaseFunction function) :=
  leads_of_same (w.object?_releaseFunction function) (w.adapters_releaseFunction function)

theorem leads_handOver (w : World σ V) (adapter function : Nat) (retain : Bool) :
    w.Leads (w.handOver adapter function retain) := by
  cases retain with
  | false => exact w.leads_leaveAdapter adapter
  | true =>
    exact (w.leads_leaveAdapter adapter).trans
      (leads_of_same (object?_retain _ function) (adapters_retain _ function))

end World

/-- From every moment of a course steps lead to every later one. -/
theorem Course.inOrder {direct} {w w' : World σ V} {t : List (Span σ V)}
    (course : Course direct w t w') : InOrder World.Leads w t w' := by
  induction course with
  | still w => exact inOrder_nil (.refl w)
  | followed first second ih₁ ih₂ => exact ih₁.append ih₂
  | performed r answer meanwhile ih => exact .span (.refl _) ih (.refl _)
  | allocated w template => exact inOrder_nil (World.Step.allocated w _).leads
  | declared w c => exact inOrder_nil (World.leads_of_same (fun _ => rfl) rfl)
  | @made _ w object idle => exact inOrder_nil (w.leads_addObject object)
  | wrapped found named idle empty => exact inOrder_nil (World.Step.wrapped _ empty).leads
  | dropped found => exact inOrder_nil (World.leads_dropAdapter _ _)
  | configured w adapter options =>
    exact inOrder_nil (w.leads_modifyAdapter adapter fun _ => ⟨rfl, rfl⟩)
  | released w function =>
    exact inOrder_nil
      (World.leads_of_same (w.object?_release function) (w.adapters_release function))
  | refused refusal =>
    exact .span (.refl _) (inOrder_nil (.refl _)) (.refl _)
  | stored found =>
    exact .span (.refl _) (inOrder_nil (World.leads_array found _)) (.refl _)
  | read result found selected reads lent body ih =>
    exact .span (.refl _)
      (.span (World.leads_withLease _ _ _) ih (World.leads_endRead _ _)) (.refl _)
  | written result left found selected writes lent body ih =>
    exact .span (.refl _)
      (.span (World.leads_withLease _ _ _) ih (World.leads_endWrite _ _ left)) (.refl _)
  | replied outcome found body ih =>
    exact .span (.refl _) (.span (.refl _) ih (.refl _)) (.refl _)
  | held found lent body ih =>
    exact .span (World.leads_withLease _ _ _) ih (World.leads_endRead _ _)
  | @used _ w w' _ adapter _ found body ih =>
    exact .preceded (w.leads_enterAdapter adapter)
      (ih.continued (w'.leads_leaveAdapter adapter))
  | @recalled _ w w' _ function kept body ih =>
    exact .preceded (w.leads_acquireFunction function)
      (ih.continued (w'.leads_releaseFunction function))
  | @missed w adapter _ _ found uncached other =>
    have ended := (w.enterAdapter adapter).leads_leaveAdapter adapter
    rw [World.leaveAdapter_enterAdapter found] at ended
    exact .span (w.leads_enterAdapter adapter) (inOrder_nil (.refl _)) ended
  | @hit w w' _ adapter function _ _ retain found cached use ih =>
    have resolved := inOrder_nil ((w.enterAdapter adapter).leads_acquireFunction function)
    have handed := World.leads_handOver ((w.enterAdapter adapter).acquireFunction function) adapter
      function retain
    exact (InOrder.span (w.leads_enterAdapter adapter) resolved handed).append
      (ih.continued (w'.leads_releaseFunction function))
  | @minted w w₁ w₂ t t' adapter name a made published retain found uncached isMethod hooks mint
      publish use ih₁ ih₂ =>
    have owned : (w.enterAdapter adapter).Leads
        ((w.enterAdapter adapter).acquireHandle a.object.id) :=
      World.leads_of_same (World.object?_acquireHandle _ _) rfl
    have minted : w₁.Leads made.2 := by
      rw [mint]
      exact World.leads_of_same (fun _ => rfl) rfl
    have asked : w.Leads made.2 :=
      (w.leads_enterAdapter adapter).trans (owned.trans (ih₁.ends.trans minted))
    have stillMethod : ∀ b, made.2.livingAdapter? adapter = some b →
        ((made.2.surface b.object).members name).head? = some .method := by
      intro b living
      rw [(asked.grows adapter).object a b (World.livingAdapter?_of_adapter? found).1 living]
      exact asked.isMethod isMethod
    have resolved : w₁.Leads published.2 := by
      rw [publish]
      exact minted.trans (World.Step.published made.1 stillMethod).leads
    have handed := World.leads_handOver published.2 adapter published.1 retain
    exact (InOrder.span (w.leads_enterAdapter adapter) ((ih₁.preceded owned).continued resolved)
      handed).append (ih₂.continued (w₂.leads_releaseFunction published.1))

end Membrane
