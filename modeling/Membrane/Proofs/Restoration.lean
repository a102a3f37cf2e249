import Membrane.Proofs.Course
import Membrane.Proofs.Trace

/-!
# Leases are given back

However a run ends, and whatever faults on the way, every instance is lent at
the end as it was at the beginning. So no instance is left in use by members
that have returned.
-/

namespace Membrane

variable {σ V : Type}

namespace World

/-- Every instance is lent in one world as it is in another. -/
def SameLeases (w w' : World σ V) : Prop :=
  ∀ o, w'.leaseOf o = w.leaseOf o

theorem SameLeases.refl (w : World σ V) : w.SameLeases w := fun _ => rfl

theorem SameLeases.trans {w w' w'' : World σ V} (first : w.SameLeases w')
    (second : w'.SameLeases w'') : w.SameLeases w'' :=
  fun o => (second o).trans (first o)

theorem sameLeases_of_objects {w w' : World σ V} (same : ∀ o, w'.object? o = w.object? o) :
    w.SameLeases w' :=
  fun o => leaseOf_congr (same o)

theorem sameLeases_allocate {w : World σ V} {object : HostObject σ (Request σ V) (Answer σ V)}
    (idle : object.lease = .free) : w.SameLeases (w.allocate object).2 :=
  leaseOf_allocate idle

theorem sameLeases_addObject {w : World σ V} {object : HostObject σ (Request σ V) (Answer σ V)}
    (idle : object.lease = .free) : w.SameLeases (w.addObject object).2 :=
  (sameLeases_allocate idle).trans (sameLeases_of_objects fun _ => object?_addHandle _ _ _)

/-- Arrays are never lent, whatever is stored in them. -/
theorem sameLeases_array {w : World σ V} {o : Nat} {a : TypedArray}
    (found : w.object? o = some (.array a)) (changed : TypedArray) :
    w.SameLeases (w.modifyObject o fun _ => .array changed) := by
  intro i
  by_cases same : i = o
  · subst same
    rw [leaseOf_of_object? found, leaseOf_modifyObject_self (g := fun _ => .free) (fun _ => rfl) rfl]
    rfl
  · exact leaseOf_modifyObject_ne same _

/-- Whoever borrowed an instance gives its lease back, if all leases borrowed
meanwhile were given back. -/
theorem sameLeases_giveBack {w w' : World σ V} {o : Nat}
    {c : HostClass σ (Request σ V) (Answer σ V)} {state : σ} {lease borrowed : Lease}
    {g : Lease → Lease}
    {f : HostObject σ (Request σ V) (Answer σ V) → HostObject σ (Request σ V) (Answer σ V)}
    (found : w.object? o = some (.ofClass c state lease))
    (onObjects : ∀ object, (f object).lease = g object.lease) (onFree : g .free = .free)
    (back : g borrowed = lease)
    (meanwhile : (w.modifyObject o (.withLease borrowed)).SameLeases w') :
    w.SameLeases (w'.modifyObject o f) := by
  intro i
  by_cases same : i = o
  · subst same
    rw [leaseOf_modifyObject_self onObjects onFree, meanwhile,
      leaseOf_of_object? (object?_withLease found borrowed), leaseOf_of_object? found]
    exact back
  · rw [leaseOf_modifyObject_ne same, meanwhile, leaseOf_modifyObject_ne same]

end World

/-- A course gives every lease back, and so does every span of it. -/
theorem Course.sameLeases {direct} {w w' : World σ V} {t : List (Span σ V)}
    (course : Course direct w t w') :
    w.SameLeases w' ∧ Throughout (fun span => span.before.SameLeases span.after) t := by
  induction course with
  | still w => exact ⟨.refl w, throughout_nil _⟩
  | followed first second ih₁ ih₂ =>
    exact ⟨ih₁.1.trans ih₂.1, throughout_append.mpr ⟨ih₁.2, ih₂.2⟩⟩
  | performed r answer meanwhile ih =>
    rw [throughout_singleton]
    exact ⟨ih.1, ih⟩
  | allocated w template =>
    exact ⟨World.sameLeases_allocate (HostObject.lease_ofTemplate template), throughout_nil _⟩
  | declared w c => exact ⟨.refl w, throughout_nil _⟩
  | made idle => exact ⟨World.sameLeases_addObject idle, throughout_nil _⟩
  | wrapped | dropped | configured | released =>
    exact ⟨World.sameLeases_of_objects fun o => by simp, throughout_nil _⟩
  | refused refusal =>
    rw [throughout_singleton]
    exact ⟨.refl _, .refl _, throughout_nil _⟩
  | @stored _ _ _ call a found =>
    have same := World.sameLeases_array found (HostObject.callArray a call).2
    rw [throughout_singleton]
    exact ⟨same, same, throughout_nil _⟩
  | read result found selected reads lent body ih =>
    have back := World.sameLeases_giveBack found HostObject.lease_endRead rfl
      (Lease.endRead_of_read? lent) ih.1
    rw [throughout_singleton, throughout_singleton]
    exact ⟨back, back, ih⟩
  | written result left found selected writes lent body ih =>
    have back := World.sameLeases_giveBack found (HostObject.lease_endWrite left) rfl
      (Lease.endWrite_of_write? lent) ih.1
    rw [throughout_singleton, throughout_singleton]
    exact ⟨back, back, ih⟩
  | replied outcome found body ih =>
    rw [throughout_singleton, throughout_singleton]
    exact ⟨ih.1, ih.1, ih⟩
  | held found lent body ih =>
    have back := World.sameLeases_giveBack found HostObject.lease_endRead rfl
      (Lease.endRead_of_read? lent) ih.1
    rw [throughout_singleton]
    exact ⟨back, ih⟩
  | @used _ w w' _ adapter _ found body ih =>
    have entered := World.sameLeases_of_objects (w.object?_enterAdapter adapter)
    have left := World.sameLeases_of_objects (w'.object?_leaveAdapter adapter)
    exact ⟨entered.trans (ih.1.trans left), ih.2⟩
  | @recalled _ w w' _ function kept body ih =>
    have acquired := World.sameLeases_of_objects (w.object?_acquireFunction function)
    have released := World.sameLeases_of_objects (w'.object?_releaseFunction function)
    exact ⟨acquired.trans (ih.1.trans released), ih.2⟩
  | missed found uncached other =>
    rw [throughout_singleton]
    exact ⟨.refl _, .refl _, throughout_nil _⟩
  | @hit w w' _ adapter function _ _ retain found cached use ih =>
    have entered := World.sameLeases_of_objects (w.object?_enterAdapter adapter)
    have acquired := World.sameLeases_of_objects
      ((w.enterAdapter adapter).object?_acquireFunction function)
    have handed := World.sameLeases_of_objects
      (((w.enterAdapter adapter).acquireFunction function).object?_handOver adapter function retain)
    have released := World.sameLeases_of_objects (w'.object?_releaseFunction function)
    rw [throughout_cons]
    constructor
    · exact entered.trans (acquired.trans (handed.trans (ih.1.trans released)))
    · exact ⟨acquired, throughout_nil _, ih.2⟩
  | @minted w w₁ w₂ _ _ adapter _ a made published retain found uncached isMethod hooks mint
      publish use ih₁ ih₂ =>
    have entered := World.sameLeases_of_objects (w.object?_enterAdapter adapter)
    have acquired := World.sameLeases_of_objects
      ((w.enterAdapter adapter).object?_acquireHandle a.object.id)
    have cached : w₁.SameLeases published.2 :=
      World.sameLeases_of_objects fun o => by simp [publish, mint]
    have handed := World.sameLeases_of_objects
      (published.2.object?_handOver adapter published.1 retain)
    have released := World.sameLeases_of_objects (w₂.object?_releaseFunction published.1)
    have resolved := acquired.trans (ih₁.1.trans cached)
    rw [throughout_cons]
    constructor
    · exact entered.trans (resolved.trans (handed.trans (ih₂.1.trans released)))
    · exact ⟨resolved, ih₁.2, ih₂.2⟩

/-! ## No instance is left in use -/

/-- What a member concludes is never the fault of an instance in use. -/
theorem Slot.conclude_ne_inUse (slot : Slot) (result : Except Fault Value) (name : String) :
    slot.conclude result ≠ .error (.inUse name) := by
  cases result <;> simp [conclude, Fault.inUse]

namespace HostClass

variable {Request Answer : Type} {c : HostClass σ Request Answer}

theorem refusal_ne_inUse (surface : Surface) (call : HostCall) (name : String) :
    surface.refusal call ≠ .inUse name := by
  cases call <;> simp [Surface.refusal, Fault.inUse]

theorem extractLong_ne_inUse (v : Value) (name : String) :
    v.extractLong ≠ .error (.inUse name) := by
  cases v <;> simp [Value.extractLong, Value.castFault, Fault.inUse]

/-- A class that finds no member refuses the call by its surface, or because an
index is no integer. -/
theorem select_eq_error {call : HostCall} {fault : Fault} (refused : c.select call = .error fault) :
    fault = c.surface.refusal call ∨ ∃ index : Value, index.extractLong = .error fault := by
  cases call with
  | getProperty name =>
    cases found : c.getter? name with
    | some selection => simp [select, found] at refused
    | none =>
      simp only [select, found, Except.error.injEq] at refused
      exact Or.inl refused.symm
  | setProperty name v =>
    cases found : c.setter? name v with
    | some selection => simp [select, found] at refused
    | none =>
      simp only [select, found, Except.error.injEq] at refused
      exact Or.inl refused.symm
  | invoke name args =>
    cases found : c.method? name args with
    | some selection => simp [select, found] at refused
    | none =>
      simp only [select, found, Except.error.injEq] at refused
      exact Or.inl refused.symm
  | getItem args =>
    simp only [select, itemGetter] at refused
    split at refused
    · rename_i _ _ _ index _ _
      cases extracted : index.extractLong with
      | ok n =>
        rw [extracted] at refused
        cases refused
      | error unread =>
        rw [extracted] at refused
        cases refused
        exact Or.inr ⟨index, extracted⟩
    · cases refused
      exact Or.inl rfl
  | setItem args =>
    simp only [select, itemSetter] at refused
    split at refused
    · rename_i _ _ _ index v _
      cases extracted : index.extractLong with
      | ok n =>
        rw [extracted] at refused
        cases refused
      | error unread =>
        rw [extracted] at refused
        cases refused
        exact Or.inr ⟨index, extracted⟩
    · cases refused
      exact Or.inl rfl
  | getElement index =>
    cases refused
    exact Or.inl rfl
  | setElement index v =>
    cases refused
    exact Or.inl rfl

/-- A class that finds no member for a call never says that an instance is in
use. -/
theorem select_ne_inUse (call : HostCall) (name : String) :
    c.select call ≠ .error (.inUse name) := by
  intro refused
  rcases select_eq_error refused with bySurface | ⟨index, unread⟩
  · exact refusal_ne_inUse c.surface call name bySurface.symm
  · exact extractLong_ne_inUse index name unread

end HostClass

/-- An instance that nobody holds never answers that it is in use. -/
theorem callObject_ne_inUse {w : World σ V} (entry : Entry σ V) {ref : ObjectRef}
    (call : HostCall) {c : HostClass σ (Request σ V) (Answer σ V)} {state : σ}
    (found : w.object? ref.id = some (.ofClass c state .free)) :
    (callObject entry ref call w).value ≠ .error (.inUse c.name) := by
  cases selected : c.select call with
  | error fault =>
    have refusal : w.refusal? ref call = some fault := by
      simp only [World.refusal?, found, selected]
    rw [callObject_of_refusal refusal]
    intro same
    cases same
    exact HostClass.select_ne_inUse call c.name selected
  | ok selection =>
    rcases selection with ⟨slot, closure, args⟩
    cases closure with
    | reads run =>
      rw [callObject_of_reads found selected rfl]
      exact slot.conclude_ne_inUse _ c.name
    | writes run =>
      rw [callObject_of_writes found selected rfl]
      exact slot.conclude_ne_inUse _ c.name

/-- Every run, and every operation in it at every depth, ends with each instance
lent as it was at its beginning, however it ends. So after a run an instance
says that it is in use only if it was held already when the run began. -/
theorem no_instance_left_in_use (depth : Nat) (p : Routine σ V Unit) (w : World σ V) :
    let run := performProgram (entryAt depth) p w
    w.SameLeases run.world ∧
      Throughout (fun span => span.before.SameLeases span.after) run.trace ∧
      ∀ (entry : Entry σ V) ref call c state lease,
        run.world.object? ref.id = some (.ofClass c state lease) → w.leaseOf ref.id = .free →
        (callObject entry ref call run.world).value ≠ .error (.inUse c.name) := by
  intro run
  obtain ⟨same, throughout⟩ := (performProgram_course depth p w).sameLeases
  refine ⟨same, throughout, ?_⟩
  intro entry ref call c state lease found free
  -- The instance is lent after the run as it was before.
  have idle : lease = .free := by
    calc
      lease = run.world.leaseOf ref.id := (World.leaseOf_of_object? found).symm
      _ = w.leaseOf ref.id := same ref.id
      _ = .free := free
  subst idle
  exact callObject_ne_inUse entry call found

end Membrane
