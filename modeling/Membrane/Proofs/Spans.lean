import Membrane.Proofs.Course
import Membrane.Proofs.Trace

/-!
# How spans arise

Every span of a course, at whatever depth, was left by one of its rules, under
the guards of that rule (`Course.arises`). What is said of every span of a run is
shown by cases on how it arises.
-/

namespace Membrane

variable {σ V : Type}

/-- The ways in which a span arises, by what happens in it. -/
inductive Span.Arises : Span σ V → Prop where
  | performed {w w' : World σ V} {t : List (Span σ V)} (r : Request σ V) (answer : Answer σ V)
      (meanwhile : Course r.resolution? w t w') : Arises ⟨.performed r answer, w, w', t⟩
  | refused {w : World σ V} {ref : ObjectRef} {call : HostCall} {fault : Fault}
      (refusal : w.refusal? ref call = some fault) :
      Arises ⟨.called ref.id call (.error fault), w, w, []⟩
  | stored {w w' : World σ V} {ref : ObjectRef} {call : HostCall} {a : TypedArray}
      (found : w.object? ref.id = some (.array a)) :
      Arises ⟨.called ref.id call (HostObject.callArray a call).1, w, w', []⟩
  /-- A call is answered by something that runs, which an array has not. -/
  | called {w w' : World σ V} {t : List (Span σ V)} {ref : ObjectRef} {call : HostCall}
      {outcome : Except Fault Value} {object : HostObject σ (Request σ V) (Answer σ V)}
      (found : w.object? ref.id = some object) (other : ∀ a, object ≠ .array a) :
      Arises ⟨.called ref.id call outcome, w, w', t⟩
  | read {w w' : World σ V} {t : List (Span σ V)} {o : Nat} {slot : Slot} {args : List Value}
      {c : HostClass σ (Request σ V) (Answer σ V)} {state : σ} {lease borrowed : Lease}
      (found : w.object? o = some (.ofClass c state lease)) (reads : slot.reads = true)
      (lent : lease.read? = some borrowed)
      (body : Course none (w.modifyObject o (.withLease borrowed)) t w') :
      Arises ⟨.ran o slot args, w.modifyObject o (.withLease borrowed), w', t⟩
  | written {w w' : World σ V} {t : List (Span σ V)} {o : Nat} {slot : Slot} {args : List Value}
      {c : HostClass σ (Request σ V) (Answer σ V)} {state : σ} {lease borrowed : Lease}
      (found : w.object? o = some (.ofClass c state lease)) (writes : slot.reads = false)
      (lent : lease.write? = some borrowed)
      (body : Course none (w.modifyObject o (.withLease borrowed)) t w') :
      Arises ⟨.ran o slot args, w.modifyObject o (.withLease borrowed), w', t⟩
  | replied {w w' : World σ V} {t : List (Span σ V)} (o : Nat) (call : HostCall)
      (body : Course none w t w') : Arises ⟨.replied o call, w, w', t⟩
  | held {w w' : World σ V} {t : List (Span σ V)} {o : Nat}
      {c : HostClass σ (Request σ V) (Answer σ V)} {state : σ} {lease borrowed : Lease}
      (found : w.object? o = some (.ofClass c state lease)) (lent : lease.read? = some borrowed)
      (body : Course none (w.modifyObject o (.withLease borrowed)) t w') :
      Arises ⟨.held o, w.modifyObject o (.withLease borrowed), w', t⟩
  | missed {w : World σ V} {adapter : Nat} {name : String} {a : Adapter V}
      (found : w.adapter? adapter = some a) (uncached : a.cached? name = none)
      (other : ((w.surface a.object).members name).head? ≠ some .method) :
      Arises ⟨.resolved adapter name none, w.enterAdapter adapter, w.enterAdapter adapter, []⟩
  | hit {w : World σ V} {adapter function : Nat} {name : String} {a : Adapter V}
      (found : w.adapter? adapter = some a) (cached : a.cached? name = some function) :
      Arises ⟨.resolved adapter name (some function), w.enterAdapter adapter,
        (w.enterAdapter adapter).acquireFunction function, []⟩
  | minted {w w₁ : World σ V} {t : List (Span σ V)} {adapter : Nat} {name : String}
      {a : Adapter V} {made published : Nat × World σ V}
      (found : w.adapter? adapter = some a)
      (isMethod : ((w.surface a.object).members name).head? = some .method)
      (hooks : Course none ((w.enterAdapter adapter).acquireHandle a.object.id) t w₁)
      (mint : made = w₁.mint ⟨a.object, name⟩ a.trampoline a.codec)
      (publish : published = made.2.publish adapter name made.1) :
      Arises ⟨.resolved adapter name (some published.1), w.enterAdapter adapter, published.2, t⟩

/-- Every span of a course arises in one of these ways. -/
theorem Course.arises {direct} {w w' : World σ V} {t : List (Span σ V)}
    (course : Course direct w t w') : Throughout Span.Arises t := by
  induction course with
  | still | allocated | declared | made | wrapped | dropped | configured | released =>
    exact throughout_nil _
  | followed first second ih₁ ih₂ => exact throughout_append.mpr ⟨ih₁, ih₂⟩
  | performed r answer meanwhile ih =>
    rw [throughout_singleton]
    exact ⟨.performed r answer meanwhile, ih⟩
  | refused refusal =>
    rw [throughout_singleton]
    exact ⟨.refused refusal, throughout_nil _⟩
  | stored found =>
    rw [throughout_singleton]
    exact ⟨.stored found, throughout_nil _⟩
  | read result found selected reads lent body ih =>
    rw [throughout_singleton, throughout_singleton]
    exact ⟨.called found nofun, .read found reads lent body, ih⟩
  | written result left found selected writes lent body ih =>
    rw [throughout_singleton, throughout_singleton]
    exact ⟨.called found nofun, .written found writes lent body, ih⟩
  | replied outcome found body ih =>
    rw [throughout_singleton, throughout_singleton]
    exact ⟨.called found nofun, .replied _ _ body, ih⟩
  | held found lent body ih =>
    rw [throughout_singleton]
    exact ⟨.held found lent body, ih⟩
  | used found body ih => exact ih
  | recalled kept body ih => exact ih
  | missed found uncached other =>
    rw [throughout_singleton]
    exact ⟨.missed found uncached other, throughout_nil _⟩
  | hit found cached use ih =>
    rw [throughout_cons]
    exact ⟨.hit found cached, throughout_nil _, ih⟩
  | minted found uncached isMethod hooks mint publish use ih₁ ih₂ =>
    rw [throughout_cons]
    exact ⟨.minted found isMethod hooks mint publish, ih₁, ih₂⟩

end Membrane
