import Membrane.Proofs.SideBySide

/-!
# Twins

Whatever host objects do on their own is done alike in two runs that are alike, if
the programs of their members run alike. Requests are then taken one by one, and
programs by induction over what makes them alike.
-/

namespace Membrane

variable {σ V α : Type} {m : Leeway V} {entry : Entry σ V}

/-! ## Host objects -/

namespace HostObject.Alike

variable {object object' : HostObject σ (Request σ V) (Answer σ V)}

theorem withLease (alike : object.Alike m object') (lease : Lease) :
    (object.withLease lease).Alike m (object'.withLease lease) := by
  cases alike with
  | ofClass classes state _ => exact .ofClass classes state lease
  | array a => exact .array a
  | handwritten surface answered => exact .handwritten surface answered

theorem endRead (alike : object.Alike m object') : object.endRead.Alike m object'.endRead := by
  cases alike with
  | ofClass classes state lease => exact .ofClass classes state lease.endRead
  | array a => exact .array a
  | handwritten surface answered => exact .handwritten surface answered

theorem endWrite (alike : object.Alike m object') (state : σ) :
    (object.endWrite state).Alike m (object'.endWrite state) := by
  cases alike with
  | ofClass classes _ lease => exact .ofClass classes state lease.endWrite
  | array a => exact .array a
  | handwritten surface answered => exact .handwritten surface answered

theorem ofTemplate (template : Template) :
    (HostObject.ofTemplate template).Alike (σ := σ) m (.ofTemplate template) := by
  cases template with
  | named typeName => exact .handwritten _ fun _ => .none
  | array element => exact .array _

end HostObject.Alike

/-- Programs that are alike run alike. -/
def Entry.RunsAlike (entry : Entry σ V) (m : Leeway V) : Prop :=
  ∀ {α : Type} {p p' : Routine σ V α}, p.Alike m p' → (p.run entry).Twin m Eq (p'.run entry)

/-- Objects that are alike answer calls alike. -/
theorem twin_callObject (runs : entry.RunsAlike m) (ref : ObjectRef) (call : HostCall) :
    (callObject entry ref call).Twin m Eq (callObject entry ref call) := by
  intro w w' alike admits
  rcases w.call_cases ref call with
    ⟨fault, refusal⟩ | ⟨a, found⟩ | ⟨c, state, lease, borrowed, ⟨slot, closure, args⟩, found,
      selected, lent⟩ | ⟨surface, replies, program, found, chosen⟩
  · rw [callObject_of_refusal refusal, callObject_of_refusal (alike.refusal? refusal)]
    exact ⟨rfl, .host trivial alike alike .nil, alike⟩
  · obtain ⟨_, found', objects⟩ := alike.object? found
    cases objects
    have changed := alike.modifyObject (f := fun _ => .array (HostObject.callArray a call).2)
      ref.id fun _ _ _ => .array _
    rw [callObject_of_array found, callObject_of_array found']
    exact ⟨rfl, .host trivial alike changed .nil, changed⟩
  · obtain ⟨_, found', objects⟩ := alike.object? found
    have began := alike.modifyObject ref.id fun _ _ objects => objects.withLease borrowed
    cases objects with
    | ofClass classes =>
      cases closure with
      | reads run =>
        obtain ⟨run', selected'⟩ := classes.agrees.select_reads selected
        rw [callObject_of_reads found selected lent, callObject_of_reads found' selected' lent]
          at admits ⊢
        have body := runs (classes.members (.reads selected selected' state)) _ _ began
          ((admits.inside id id fun _ _ => rfl).inside id id fun _ _ => rfl)
        have ended := body.world.modifyObject ref.id fun _ _ objects => objects.endRead
        simp only [body.value]
        exact ⟨rfl, .host trivial alike ended (.host trivial began body.world body.trace), ended⟩
      | writes run =>
        obtain ⟨run', selected'⟩ := classes.agrees.select_writes selected
        rw [callObject_of_writes found selected lent, callObject_of_writes found' selected' lent]
          at admits ⊢
        have body := runs (classes.members (.writes selected selected' state)) _ _ began
          ((admits.inside id id fun _ _ => rfl).inside id id fun _ _ => rfl)
        have ended (state : σ) :=
          body.world.modifyObject ref.id fun _ _ objects => objects.endWrite state
        simp only [body.value]
        exact ⟨rfl, .host trivial alike (ended _)
          (.host trivial began body.world body.trace), ended _⟩
  · obtain ⟨_, found', objects⟩ := alike.object? found
    cases objects with
    | handwritten _ answered =>
      obtain ⟨program', chosen', programs⟩ := World.exists_of_rel_some (chosen ▸ answered call)
      rw [callObject_of_replies found chosen, callObject_of_replies found' chosen'] at admits ⊢
      have body := runs programs _ _ alike
        ((admits.inside id id fun _ _ => rfl).inside id id fun _ _ => rfl)
      simp only [body.value]
      exact ⟨rfl, .host trivial alike body.world
        (.host trivial alike body.world body.trace), body.world⟩

/-- What looks at objects and calls them does so alike. -/
theorem twin_callClosed (runs : entry.RunsAlike m) :
    CallClosed entry fun _ act => act.Twin m Eq act where
  pure _ := .pure rfl
  bind twin each := twin.bind_eq each
  surface ref := .look fun _ _ alike => alike.surface ref
  callObject := twin_callObject runs

/-! ## Handles, adapters and objects -/

theorem twin_handle? (handle : Nat) :
    (Act.look (·.handle? handle) : Act σ V _).Twin m Eq (.look (·.handle? handle)) :=
  .look fun w w' alike => by rw [World.handle?, World.handle?, alike.handles]

theorem twin_withHandle {act act' : ObjectRef → Act σ V (Answer σ V)} (handle : Nat)
    (each : ∀ ref, (act ref).Twin m (Answer.Alike m) (act' ref)) :
    (withHandle handle act).Twin m (Answer.Alike m) (withHandle handle act') := by
  apply (twin_handle? handle).bind_eq
  rintro (_ | ref)
  · exact .pure (.plain trivial)
  · exact each ref

theorem twin_withAdapter {act act' : Adapter V → Act σ V (Answer σ V)} (i : Nat)
    (each : ∀ a a', a.shown m = a'.shown m → (act a).Twin m (Answer.Alike m) (act' a')) :
    (withAdapter i act).Twin m (Answer.Alike m) (withAdapter i act') := by
  have found : (Act.look (·.adapter? i) : Act σ V _).Twin m
      (fun a a' => a.map (Adapter.shown m) = a'.map (Adapter.shown m)) (.look (·.adapter? i)) :=
    .look fun w w' alike => alike.adapters i
  apply found.bind
  rintro (_ | a) (_ | a') same
  · exact .pure (.plain trivial)
  · cases same
  · cases same
  · exact each a a' (Option.some.inj same)

/-- An operation may run on one adapter here and on another there. -/
theorem twin_whileUsing {R : α → α → Prop} {act act' : Act σ V α} (i j : Nat)
    (twin : act.Twin m R act') : (whileUsing i act).Twin m R (whileUsing j act') := by
  apply Act.Twin.update_bind
  · exact fun w w' alike => alike.unseen (w.unseen_enterAdapter i) (w'.unseen_enterAdapter j)
  · apply twin.bind
    intro result result' related
    apply Act.Twin.update_bind
    · exact fun w w' alike => alike.unseen (w.unseen_leaveAdapter i) (w'.unseen_leaveAdapter j)
    · exact .pure related

theorem twin_makeObject {object object' : HostObject σ (Request σ V) (Answer σ V)}
    (objects : object.Alike m object') :
    (makeObject object).Twin m (Answer.Alike m) (makeObject object') := by
  have made : (Act.change (·.addObject object) : Act σ V Nat).Twin m Eq
      (.change (·.addObject object')) :=
    .change fun w w' alike => alike.addObject objects
  apply made.bind_eq
  intro handle
  exact .pure (.plain trivial)

theorem twin_whileReading {R : α → α → Prop} {act act' : σ → Act σ V α} (o : Nat)
    (each : ∀ state, (act state).Twin m R (act' state)) :
    (whileReading o act).Twin m (Option.Rel R) (whileReading o act') := by
  have found : (Act.look (·.object? o) : Act σ V _).Twin m (Option.Rel (HostObject.Alike m))
      (.look (·.object? o)) :=
    .look fun w w' alike => alike.objects o
  apply found.bind
  intro object object' objects
  cases objects with
  | none => exact .pure .none
  | some objects =>
    cases objects with
    | array a => exact .pure .none
    | handwritten surface answered => exact .pure .none
    | ofClass classes state lease =>
      dsimp only
      cases lease.read? with
      | none => exact .pure .none
      | some borrowed =>
        apply Act.Twin.update_bind
        · exact fun w w' alike => alike.modifyObject o fun _ _ objects => objects.withLease _
        · apply (each state).bind
          intro result result' related
          apply Act.Twin.update_bind
          · exact fun w w' alike => alike.modifyObject o fun _ _ objects => objects.endRead
          · exact .pure (.some related)

theorem twin_holdState {program program' : Act σ V Unit} (handle : Nat)
    (twin : program.Twin m Eq program') :
    (holdState handle program).Twin m (Answer.Alike m) (holdState handle program') := by
  apply twin_withHandle
  intro ref
  have held : (program.within fun _ => .held ref.id).Twin m Eq
      (program'.within fun _ => .held ref.id) := by
    intro w w' alike admits
    have inside := twin w w' alike (admits.inside id id fun _ _ => rfl)
    exact ⟨inside.value, .host trivial alike inside.world inside.trace, inside.world⟩
  apply (twin_whileReading ref.id fun _ => held).bind
  intro result result' related
  cases related with
  | none => exact .pure (.plain trivial)
  | some _ => exact .pure (.plain trivial)

theorem twin_adapt (handle : Nat) (codec : Codec V) (text : Option String) (reject : Option Bool)
    (trampoline : Trampoline) :
    (adapt (σ := σ) handle codec text reject trampoline).Twin m (Answer.Alike m)
      (adapt handle codec text reject trampoline) := by
  apply twin_withHandle
  intro ref
  cases adapterOptions text reject with
  | error error => exact .pure (.plain trivial)
  | ok options =>
    apply Act.Twin.bind_eq (.change fun w w' alike => alike.addAdapter _)
    intro adapter
    exact .pure (.plain trivial)

end Membrane
