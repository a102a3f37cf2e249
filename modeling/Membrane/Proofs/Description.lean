import Membrane.Bridge.Adapter
import Membrane.Proofs.Calls

/-!
# What a class describes and what it runs

An instance describes a property by the first property declared under its name,
but a read looks for the first getter under that name and a write for the first
setter. Where the described property has the accessor, both mean one
declaration. Where it has not, the call is refused only if no other property of
the name has one either (`description_meets_dispatch_iff`).
-/

namespace Membrane

namespace HostClass

variable {σ Request Answer α : Type} {c : HostClass σ Request Answer} {name : String}

/-! ## Searches among the members of a name -/

theorem mem_named_iff {d : Declaration σ Request Answer} {position : Nat} :
    (d, position) ∈ c.named name ↔ c.declarations[position]? = some d ∧ d.name = name := by
  simp only [named, List.mem_filter, List.mem_zipIdx_iff_getElem?, decide_eq_true_eq]

/-- The members of a name are listed in the order of their positions. -/
theorem pairwise_named : (c.named name).Pairwise fun first second => first.2 < second.2 := by
  apply List.Pairwise.filter
  rw [← List.pairwise_map (f := Prod.snd) (R := (· < ·)), List.zipIdx_map_snd]
  exact List.pairwise_lt_range'

/-- A search finds what the first member of the name gives at which it does not
fail. -/
theorem findSome?_named_eq_some_iff {f : Declaration σ Request Answer × Nat → Option α} {found : α} :
    (c.named name).findSome? f = some found ↔
      ∃ position d, c.declarations[position]? = some d ∧ d.name = name ∧
        f (d, position) = some found ∧
        ∀ earlier < position, ∀ d', c.declarations[earlier]? = some d' → d'.name = name →
          f (d', earlier) = none := by
  constructor
  · intro finds
    obtain ⟨before, ⟨d, position⟩, after, split, gives, fails⟩ :=
      List.findSome?_eq_some_iff.mp finds
    have ordered : (before ++ (d, position) :: after).Pairwise
        fun first second => first.2 < second.2 := split ▸ pairwise_named
    have here : (d, position) ∈ c.named name := split ▸ List.mem_append_right _ List.mem_cons_self
    obtain ⟨declared, named⟩ := mem_named_iff.mp here
    refine ⟨position, d, declared, named, gives, ?_⟩
    intro earlier lower d' declared' named'
    -- A member with a lower position can only stand before the one that was found.
    have mem : (d', earlier) ∈ before ++ (d, position) :: after :=
      split ▸ mem_named_iff.mpr ⟨declared', named'⟩
    rcases List.mem_append.mp mem with inside | later
    · exact fails _ inside
    · rcases List.mem_cons.mp later with same | later
      · cases same
        exact absurd lower (Nat.lt_irrefl _)
      · have higher := (List.pairwise_cons.mp (List.pairwise_append.mp ordered).2.1).1 _ later
        exact absurd (Nat.lt_trans lower higher) (Nat.lt_irrefl _)
  · rintro ⟨position, d, declared, named, gives, fails⟩
    obtain ⟨before, after, split⟩ := List.append_of_mem (mem_named_iff.mpr ⟨declared, named⟩)
    have ordered : (before ++ (d, position) :: after).Pairwise
        fun first second => first.2 < second.2 := split ▸ pairwise_named
    rw [List.findSome?_eq_some_iff]
    refine ⟨before, (d, position), after, split, gives, ?_⟩
    rintro ⟨d', earlier⟩ inside
    have mem : (d', earlier) ∈ c.named name := split ▸ List.mem_append_left _ inside
    obtain ⟨declared', named'⟩ := mem_named_iff.mp mem
    have lower := (List.pairwise_append.mp ordered).2.2 _ inside _ List.mem_cons_self
    exact fails earlier lower d' declared' named'

/-- Some member of a name passes a test. -/
def Has (c : HostClass σ Request Answer) (test : Declaration σ Request Answer → Bool)
    (name : String) : Prop :=
  ∃ d ∈ c.declarations, d.name = name ∧ test d = true

/-- A search for the members that pass a test fails if there is none. -/
theorem findSome?_named_eq_none_iff_not_has {f : Declaration σ Request Answer × Nat → Option α}
    {test : Declaration σ Request Answer → Bool}
    (tests : ∀ d position, (f (d, position)).isSome = test d) :
    (c.named name).findSome? f = none ↔ ¬ c.Has test name := by
  simp only [List.findSome?_eq_none_iff, Prod.forall, mem_named_iff]
  constructor
  · rintro fails ⟨d, mem, named, passes⟩
    obtain ⟨position, declared⟩ := List.mem_iff_getElem?.mp mem
    have absent := fails d position ⟨declared, named⟩
    rw [← tests d position, absent] at passes
    cases passes
  · rintro hasNone d position ⟨declared, named⟩
    cases answer : f (d, position) with
    | none => rfl
    | some found =>
      have passes : test d = true := by rw [← tests d position, answer]; rfl
      exact absurd ⟨d, List.mem_of_getElem? declared, named, passes⟩ hasNone

end HostClass

namespace Declaration

variable {σ Request Answer : Type}

/-- Whether a member is a property with a getter. -/
def hasGetter : Declaration σ Request Answer → Bool
  | property _ _ getter _ => getter.isSome
  | method .. => false

/-- Whether a member is a property with a setter. -/
def hasSetter : Declaration σ Request Answer → Bool
  | property _ _ _ setter => setter.isSome
  | method .. => false

theorem kind_of_hasGetter (d : Declaration σ Request Answer) (has : d.hasGetter = true) :
    d.kind = .property := by
  cases d with
  | property => rfl
  | method => cases has

theorem kind_of_hasSetter (d : Declaration σ Request Answer) (has : d.hasSetter = true) :
    d.kind = .property := by
  cases d with
  | property => rfl
  | method => cases has

end Declaration

/-! ## The described property and the accessors -/

namespace HostClass

variable {σ Request Answer α : Type} {c : HostClass σ Request Answer} {name : String}

/-- A property is declared at a position, and only methods are declared under
its name before it. -/
structure FirstProperty (c : HostClass σ Request Answer) (name : String) (position : Nat)
    (declaredType : ValueType)
    (getter : Option (σ → List Value → Program Request Answer (Except Fault Value)))
    (setter : Option (σ → List Value → Program Request Answer (σ × Except Fault Value))) : Prop where
  declared : c.declarations[position]? = some (.property name declaredType getter setter)
  first : ∀ earlier < position, ∀ d, c.declarations[earlier]? = some d → d.name = name →
    d.kind = .method

variable {position : Nat} {declaredType : ValueType} {v : Value} {info : PropertyInfo}
  {getter : Option (σ → List Value → Program Request Answer (Except Fault Value))}
  {setter : Option (σ → List Value → Program Request Answer (σ × Except Fault Value))}

/-- A search that no method answers finds what the first property gives. -/
theorem FirstProperty.findSome?_eq {f : Declaration σ Request Answer × Nat → Option α} {found : α}
    (property : c.FirstProperty name position declaredType getter setter)
    (methods : ∀ name arity body position, f (.method name arity body, position) = none)
    (gives : f (.property name declaredType getter setter, position) = some found) :
    (c.named name).findSome? f = some found := by
  rw [findSome?_named_eq_some_iff]
  refine ⟨position, _, property.declared, rfl, gives, ?_⟩
  intro earlier lower d declared named
  cases d with
  | method name arity body => exact methods name arity body earlier
  | property => cases property.first earlier lower _ declared named

/-- What is described is the first property of the name. -/
theorem property_eq_some_iff :
    c.property name = some info ↔ ∃ position getter setter,
      c.FirstProperty name position info.declaredType getter setter ∧
        info = ⟨name, info.declaredType, getter.isSome, setter.isSome⟩ := by
  constructor
  · intro describes
    rw [property, findSome?_named_eq_some_iff] at describes
    obtain ⟨position, d, declared, named, described, others⟩ := describes
    cases d with
    | method => cases described
    | property own declaredType getter setter =>
      cases named
      cases described
      refine ⟨position, getter, setter, ⟨declared, ?_⟩, rfl⟩
      intro earlier lower d' declared' named'
      cases d' with
      | method => rfl
      | property => cases others earlier lower _ declared' named'
  · rintro ⟨position, getter, setter, property, described⟩
    rw [described]
    exact property.findSome?_eq (fun _ _ _ _ => rfl) rfl

theorem mem_members_iff {kind : MemberKind} :
    kind ∈ c.surface.members name ↔ c.Has (·.kind = kind) name := by
  simp only [surface, List.mem_map, Prod.exists, mem_named_iff, Has, decide_eq_true_eq]
  constructor
  · rintro ⟨d, position, ⟨declared, named⟩, sort⟩
    exact ⟨d, List.mem_of_getElem? declared, named, sort⟩
  · rintro ⟨d, mem, named, sort⟩
    obtain ⟨position, declared⟩ := List.mem_iff_getElem?.mp mem
    exact ⟨d, position, ⟨declared, named⟩, sort⟩

/-- Nothing is described under a name of which no member is a property. -/
theorem property_eq_none_iff : c.property name = none ↔ .property ∉ c.surface.members name := by
  rw [mem_members_iff]
  apply findSome?_named_eq_none_iff_not_has
  intro d position
  cases d <;> rfl

/-- An accessor belongs to a property. -/
theorem Has.isProperty {test : Declaration σ Request Answer → Bool} (has : c.Has test name)
    (accessor : ∀ d, test d = true → d.kind = .property) : c.property name ≠ none := by
  intro undescribed
  obtain ⟨d, mem, named, passes⟩ := has
  apply property_eq_none_iff.mp undescribed
  rw [mem_members_iff]
  exact ⟨d, mem, named, decide_eq_true (accessor d passes)⟩

/-- A getter of the described property is the one that is found. -/
theorem FirstProperty.getter?_eq {run : σ → List Value → Program Request Answer (Except Fault Value)}
    (property : c.FirstProperty name position declaredType (some run) setter) :
    c.getter? name = some ⟨.getter position, .reads run, []⟩ :=
  property.findSome?_eq (fun _ _ _ _ => rfl) rfl

/-- A setter of the described property is the one that is found. -/
theorem FirstProperty.setter?_eq
    {run : σ → List Value → Program Request Answer (σ × Except Fault Value)}
    (property : c.FirstProperty name position declaredType getter (some run)) :
    c.setter? name v = some ⟨.setter position, .writes run, [v]⟩ :=
  property.findSome?_eq (fun _ _ _ _ => rfl) rfl

theorem getter?_eq_none_iff : c.getter? name = none ↔ ¬ c.Has Declaration.hasGetter name := by
  apply findSome?_named_eq_none_iff_not_has
  intro d position
  cases d with
  | property => simp [Declaration.getter?, Declaration.hasGetter]
  | method => rfl

theorem setter?_eq_none_iff : c.setter? name v = none ↔ ¬ c.Has Declaration.hasSetter name := by
  apply findSome?_named_eq_none_iff_not_has
  intro d position
  cases d with
  | property => simp [Declaration.setter?, Declaration.hasSetter]
  | method => rfl

end HostClass

/-! ## Reads and writes of an instance -/

section

variable {σ V : Type} {w : World σ V} {ref : ObjectRef}
  {c : HostClass σ (Request σ V) (Answer σ V)} {state : σ} {lease : Lease} {name : String}
  {v : Value}

theorem World.surface_of_class (found : w.object? ref.id = some (.ofClass c state lease)) :
    w.surface ref = c.surface := by
  rw [World.surface, found]
  rfl

/-- Every member may start on an instance that nobody uses. -/
theorem Closure.exists_borrow?_free {Request Answer : Type} (closure : Closure σ Request Answer) :
    ∃ borrowed, closure.borrow? .free = some borrowed := by
  cases closure <;> exact ⟨_, rfl⟩

/-- A call of an idle instance is refused as the class says exactly if no member
is found for it. -/
theorem World.refusedBy_iff_of_idle {entry : Entry σ V} {call : HostCall}
    {found : Option (Selection σ (Request σ V) (Answer σ V))}
    (idle : w.object? ref.id = some (.ofClass c state .free))
    (selects : c.select call = found.elim (.error (c.surface.refusal call)) .ok) :
    w.RefusedBy entry ref call (c.surface.refusal call) ↔ found = none := by
  cases found with
  | none =>
    simp only [iff_true]
    exact refusedBy_of_select idle selects
  | some selection =>
    obtain ⟨borrowed, lent⟩ := selection.closure.exists_borrow?_free
    simp only [reduceCtorEq, iff_false]
    exact (servedBy_of_select idle selects lent).not_refusedBy

theorem HostClass.select_getProperty :
    c.select (.getProperty name) =
      (c.getter? name).elim (.error (c.surface.refusal (.getProperty name))) .ok := by
  rw [select]
  cases c.getter? name <;> rfl

theorem HostClass.select_setProperty :
    c.select (.setProperty name v) =
      (c.setter? name v).elim (.error (c.surface.refusal (.setProperty name v))) .ok := by
  rw [select]
  cases c.setter? name v <;> rfl

/-- The getter of the first property serves a read. -/
theorem HostClass.FirstProperty.select_getProperty {position : Nat} {declaredType : ValueType}
    {run : σ → List Value → Routine σ V (Except Fault Value)}
    {setter : Option (σ → List Value → Routine σ V (σ × Except Fault Value))}
    (property : c.FirstProperty name position declaredType (some run) setter) :
    c.select (.getProperty name) = .ok ⟨.getter position, .reads run, []⟩ := by
  rw [HostClass.select_getProperty, property.getter?_eq]
  rfl

/-- The setter of the first property serves a write. -/
theorem HostClass.FirstProperty.select_setProperty {position : Nat} {declaredType : ValueType}
    {getter : Option (σ → List Value → Routine σ V (Except Fault Value))}
    {run : σ → List Value → Routine σ V (σ × Except Fault Value)}
    (property : c.FirstProperty name position declaredType getter (some run)) :
    c.select (.setProperty name v) = .ok ⟨.setter position, .writes run, [v]⟩ := by
  rw [HostClass.select_setProperty, property.setter?_eq]
  rfl

/-- A read of an idle instance is refused exactly if the name has no getter. -/
theorem World.refusedBy_getProperty_iff {entry : Entry σ V}
    (idle : w.object? ref.id = some (.ofClass c state .free)) :
    w.RefusedBy entry ref (.getProperty name) (.missingMember c.name name) ↔
      ¬ c.Has Declaration.hasGetter name :=
  (refusedBy_iff_of_idle idle HostClass.select_getProperty).trans HostClass.getter?_eq_none_iff

/-- A write of an idle instance is refused exactly if the name has no setter. -/
theorem World.refusedBy_setProperty_iff {entry : Entry σ V}
    (idle : w.object? ref.id = some (.ofClass c state .free)) :
    w.RefusedBy entry ref (.setProperty name v) (.missingMember c.name name) ↔
      ¬ c.Has Declaration.hasSetter name :=
  (refusedBy_iff_of_idle idle HostClass.select_setProperty).trans HostClass.setter?_eq_none_iff

/-- What is described of a name is what a call of an idle instance does, exactly
as far as no accessor of the name hides behind the description. Nothing is
described where no member is a property, and then reads and writes are refused
as missing. A described property is the first of the name; its own accessors are
those that run. One that it lacks is missing exactly if no property of the name
has it. -/
theorem description_meets_dispatch_iff
    (idle : w.object? ref.id = some (.ofClass c state .free)) (entry : Entry σ V) (name : String)
    (v : Value) :
    let described := (w.surface ref).property name
    let unread := w.RefusedBy entry ref (.getProperty name) (.missingMember c.name name)
    let unwritten := w.RefusedBy entry ref (.setProperty name v) (.missingMember c.name name)
    (described = none ↔ .property ∉ (w.surface ref).members name) ∧
    (described = none → unread ∧ unwritten) ∧
    ∀ info, described = some info → ∃ position getter setter,
      c.FirstProperty name position info.declaredType getter setter ∧
      info = ⟨name, info.declaredType, getter.isSome, setter.isSome⟩ ∧
      (∀ run, getter = some run → w.ServedBy entry ref (.getProperty name) state (.readers 1)
        ⟨.getter position, .reads run, []⟩) ∧
      (∀ run, setter = some run → w.ServedBy entry ref (.setProperty name v) state .writer
        ⟨.setter position, .writes run, [v]⟩) ∧
      (info.readable = false → (unread ↔ ¬ c.Has Declaration.hasGetter name)) ∧
      (info.writable = false → (unwritten ↔ ¬ c.Has Declaration.hasSetter name)) := by
  rw [World.surface_of_class idle]
  intro described unread unwritten
  refine ⟨HostClass.property_eq_none_iff, ?_, ?_⟩
  · intro undescribed
    constructor
    · apply (World.refusedBy_getProperty_iff idle).mpr
      intro has
      exact has.isProperty Declaration.kind_of_hasGetter undescribed
    · apply (World.refusedBy_setProperty_iff idle).mpr
      intro has
      exact has.isProperty Declaration.kind_of_hasSetter undescribed
  · intro info describes
    obtain ⟨position, getter, setter, property, flags⟩ :=
      HostClass.property_eq_some_iff.mp describes
    refine ⟨position, getter, setter, property, flags, ?_, ?_, ?_, ?_⟩
    · rintro run rfl
      have selected : c.select (.getProperty name) = .ok ⟨.getter position, .reads run, []⟩ := by
        rw [HostClass.select_getProperty, property.getter?_eq]
        rfl
      exact World.servedBy_of_select idle selected rfl
    · rintro run rfl
      have selected : c.select (.setProperty name v) = .ok ⟨.setter position, .writes run, [v]⟩ := by
        rw [HostClass.select_setProperty, property.setter?_eq]
        rfl
      exact World.servedBy_of_select idle selected rfl
    · intro _
      exact World.refusedBy_getProperty_iff idle
    · intro _
      exact World.refusedBy_setProperty_iff idle

end

/-- A class that declares a name twice: first to be written only, and then to be
read only. -/
def overlaid : HostClass Nat (Request Nat Value) (Answer Nat Value) where
  name := "Overlaid"
  kind := .reference
  declarations := [
    .property "P" .int none (some fun _ _ => .done (1, .ok .null)),
    .property "P" .int (some fun _ _ => .done (.ok (.int 7))) none]
  indexer := none

/-- A name may be described as unreadable and yet be read, by a getter that is
declared later. -/
theorem undescribed_getter_runs :
    ¬ ∀ (w : World Nat Value) (ref : ObjectRef)
        (c : HostClass Nat (Request Nat Value) (Answer Nat Value)) (state : Nat) (name : String)
        (info : PropertyInfo),
      w.object? ref.id = some (.ofClass c state .free) → c.property name = some info →
      info.readable = false →
      (callObject none ref (.getProperty name) w).value = .error (.missingMember c.name name) := by
  intro always
  let w : World Nat Value := (World.empty.addObject (.ofClass overlaid 0 .free)).2
  have missing := always w ⟨0, "Overlaid"⟩ overlaid 0 "P" ⟨"P", .int, false, true⟩ rfl rfl rfl
  have reads : (callObject none ⟨0, "Overlaid"⟩ (.getProperty "P") w).value = .ok (.int 7) := rfl
  rw [reads] at missing
  cases missing

/-- The name that is declared twice is described by its setter alone, which
runs; but a read of it is not refused. -/
theorem overlaid_read_is_not_refused :
    let w : World Nat Value := (World.empty.addObject (.ofClass overlaid 0 .free)).2
    let ref : ObjectRef := ⟨0, "Overlaid"⟩
    (w.surface ref).property "P" = some ⟨"P", .int, false, true⟩ ∧
      overlaid.Has Declaration.hasGetter "P" ∧
      ¬ w.RefusedBy none ref (.getProperty "P") (.missingMember "Overlaid" "P") ∧
      ¬ w.RefusedBy none ref (.setProperty "P" .null) (.missingMember "Overlaid" "P") := by
  intro w ref
  have idle : w.object? ref.id = some (.ofClass overlaid 0 .free) := rfl
  have has : overlaid.Has Declaration.hasGetter "P" :=
    ⟨_, List.mem_cons_of_mem _ List.mem_cons_self, rfl, rfl⟩
  obtain ⟨_, _, describes⟩ := description_meets_dispatch_iff idle none "P" .null
  obtain ⟨position, getter, setter, property, flags, reads, writes, unread, unwritten⟩ :=
    describes ⟨"P", .int, false, true⟩ rfl
  refine ⟨rfl, has, ?_, ?_⟩
  · intro refused
    exact (unread rfl).mp refused has
  · cases setter with
    | none => simp at flags
    | some run => exact (writes run rfl).not_refusedBy

end Membrane
