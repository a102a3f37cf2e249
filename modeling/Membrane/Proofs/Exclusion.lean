import Membrane.Proofs.Spans

/-!
# Exclusion by running members

While a member of an instance runs, or its state is held, other calls of the
instance give way: whatever may not run beside it does not start, and the call
is refused by a fault of its own.
-/

namespace Membrane

variable {σ V : Type}

/-- An event is a call of an object, or a run of its members. -/
def Event.Concerns (o : Nat) : Event σ V → Prop
  | called object .. | ran object .. => object = o
  | _ => False

namespace Span

/-- A span is a call of an instance of a class, and a member was found for it. -/
def Selects (span : Span σ V) (o : Nat) (c : HostClass σ (Request σ V) (Answer σ V))
    (selection : Selection σ (Request σ V) (Answer σ V)) : Prop :=
  ∃ call outcome state lease, span.event = .called o call outcome ∧
    span.before.object? o = some (.ofClass c state lease) ∧ c.select call = .ok selection

/-- The member found for a call ran, and the call ended as the member did. -/
def Served (span : Span σ V) (o : Nat)
    (selection : Selection σ (Request σ V) (Answer σ V)) : Prop :=
  ∃ call result began ended meanwhile,
    span.event = .called o call (selection.slot.conclude result) ∧
    span.inner = [⟨.ran o selection.slot selection.args, began, ended, meanwhile⟩]

/-- A call found its instance in use: the fault says so, bare of any
invocation, nothing ran and nothing changed. -/
def Busy (span : Span σ V) (o : Nat) (c : HostClass σ (Request σ V) (Answer σ V)) : Prop :=
  ∃ call, span.event = .called o call (.error (.inUse c.name)) ∧
    span.inner = [] ∧ span.after = span.before

/-- A span gives way to those who hold the state of an instance. Beside readers,
getters run and are served; nothing else of the instance starts. -/
structure GivesWay (o : Nat) (shared : Bool) (span : Span σ V) : Prop where
  starts : ∀ slot args, span.event = .ran o slot args → shared = true ∧ slot.reads = true
  served : ∀ c selection, span.Selects o c selection →
    shared = true → selection.slot.reads = true → span.Served o selection
  refused : ∀ c selection, span.Selects o c selection →
    ¬ (shared = true ∧ selection.slot.reads = true) → span.Busy o c

variable {o : Nat} {shared : Bool} {span : Span σ V}

/-- What neither calls an instance nor runs its members gives way to all who
hold it. -/
theorem givesWay_of_not_concerns (unrelated : ¬ span.event.Concerns o) :
    span.GivesWay o shared where
  starts slot args ran := by
    rw [ran] at unrelated
    exact absurd rfl unrelated
  served := by
    rintro c selection ⟨call, outcome, _, _, called, _⟩
    rw [called] at unrelated
    exact absurd rfl unrelated
  refused := by
    rintro c selection ⟨call, outcome, _, _, called, _⟩
    rw [called] at unrelated
    exact absurd rfl unrelated

end Span

/-- The lease that a member found for a call would run under. -/
theorem Selection.borrow?_closure {Request Answer : Type}
    {selection : Selection σ Request Answer} (fits : selection.Fits) (lease : Lease) :
    selection.closure.borrow? lease =
      if selection.slot.reads = true then lease.read? else lease.write? := by
  cases closure : selection.closure with
  | reads run =>
    rw [if_pos (fits.mpr ⟨run, closure⟩)]
    rfl
  | writes run =>
    rw [if_neg]
    · rfl
    · intro reads
      obtain ⟨_, same⟩ := fits.mp reads
      rw [closure] at same
      cases same

/-- A member that was found is refused only for the lease of its instance. -/
theorem World.refusal?_of_select {w : World σ V} {ref : ObjectRef} {call : HostCall}
    {c : HostClass σ (Request σ V) (Answer σ V)} {state : σ} {lease : Lease}
    {selection : Selection σ (Request σ V) (Answer σ V)}
    (found : w.object? ref.id = some (.ofClass c state lease))
    (selected : c.select call = .ok selection) :
    w.refusal? ref call =
      if (if selection.slot.reads = true then lease.read? else lease.write?).isSome then none
      else some (.inUse c.name) := by
  simp only [World.refusal?, found, selected,
    Selection.borrow?_closure (HostClass.fits_of_select selected)]

/-- While a reader borrows one instance, another that is held, or the same one,
stays held and is shared as before. -/
theorem World.lease_while_reading {w : World σ V} {o i : Nat}
    {c c' : HostClass σ (Request σ V) (Answer σ V)} {state state' : σ}
    {lease lease' borrowed : Lease} (held : w.object? o = some (.ofClass c state lease))
    (used : lease ≠ .free) (found : w.object? i = some (.ofClass c' state' lease'))
    (lent : lease'.read? = some borrowed) :
    ∃ beside, (w.modifyObject i (.withLease borrowed)).object? o =
        some (.ofClass c state beside) ∧
      beside ≠ .free ∧ beside.read?.isSome = lease.read?.isSome := by
  by_cases same : o = i
  · subst same
    cases found.symm.trans held
    obtain ⟨shared, stillShared, taken⟩ := Lease.shared_of_read? lent
    exact ⟨borrowed, object?_withLease found borrowed, taken, stillShared.trans shared.symm⟩
  · exact ⟨lease, (object?_modifyObject_ne same _).trans held, used, rfl⟩

/-- Changes of another object, before and after, are not seen. -/
theorem World.object?_modifyObject_around {w w' : World σ V} {o i : Nat} (other : o ≠ i)
    {f g : HostObject σ (Request σ V) (Answer σ V) → HostObject σ (Request σ V) (Answer σ V)}
    (kept : w'.object? o = (w.modifyObject i f).object? o) :
    (w'.modifyObject i g).object? o = w.object? o := by
  rw [object?_modifyObject_ne other, kept, object?_modifyObject_ne other]

/-- A reader that is done leaves every instance as it found it that nobody else
changed. -/
theorem World.object?_endRead {w w' : World σ V} {o i : Nat}
    {c : HostClass σ (Request σ V) (Answer σ V)} {state : σ} {lease borrowed : Lease}
    (found : w.object? i = some (.ofClass c state lease)) (lent : lease.read? = some borrowed)
    (kept : w'.object? o = (w.modifyObject i (.withLease borrowed)).object? o) :
    (w'.modifyObject i .endRead).object? o = w.object? o := by
  by_cases same : o = i
  · subst same
    rw [object?_modifyObject, if_pos rfl, kept, object?_withLease found, found, Option.map_some,
      HostObject.endRead, Lease.endRead_of_read? lent]
  · exact object?_modifyObject_around same kept

section Holders

variable {w w' : World σ V} {o : Nat} {c : HostClass σ (Request σ V) (Answer σ V)} {state : σ}
  {lease : Lease} {ref : ObjectRef} {call : HostCall}

/-- A refused call gives way to those who use an instance: a member that might
run beside them is not refused. -/
theorem givesWay_of_refusal? {fault : Fault} (refusal : w.refusal? ref call = some fault)
    (held : w.object? o = some (.ofClass c state lease)) (used : lease ≠ .free) :
    Span.GivesWay o lease.read?.isSome ⟨.called ref.id call (.error fault), w, w, []⟩ where
  starts := nofun
  served := by
    rintro _ selection ⟨_, _, _, _, called, found, selected⟩ shared reads
    cases called
    cases held.symm.trans found
    rw [World.refusal?_of_select held selected, if_pos reads, if_pos shared] at refusal
    cases refusal
  refused := by
    rintro _ selection ⟨_, _, _, _, called, found, selected⟩ alone
    cases called
    cases held.symm.trans found
    have lends : (if selection.slot.reads = true then lease.read? else lease.write?).isSome =
        false := by
      by_cases reads : selection.slot.reads = true
      · rw [if_pos reads]
        exact Bool.eq_false_iff.mpr fun shared => alone ⟨shared, reads⟩
      · rw [if_neg reads, Lease.write?_eq_none used]
        rfl
    rw [World.refusal?_of_select held selected, lends] at refusal
    cases refusal
    exact ⟨_, rfl, rfl, rfl⟩

variable {c' : HostClass σ (Request σ V) (Answer σ V)} {state' : σ} {lease' borrowed : Lease}
  {selection : Selection σ (Request σ V) (Answer σ V)} {began ended : World σ V}
  {meanwhile : List (Span σ V)}

/-- A getter that runs shares its instance with those who hold it. -/
theorem givesWay_of_getter (held : w.object? o = some (.ofClass c state lease))
    (found : w.object? ref.id = some (.ofClass c' state' lease'))
    (lent : lease'.read? = some borrowed) (reads : selection.slot.reads = true) :
    Span.GivesWay o lease.read?.isSome
      ⟨.ran ref.id selection.slot selection.args, began, ended, meanwhile⟩ where
  starts := by
    intro slot args ran
    cases ran
    cases found.symm.trans held
    exact ⟨(Lease.shared_of_read? lent).1, reads⟩
  served := by
    rintro _ _ ⟨_, _, _, _, called, _⟩
    cases called
  refused := by
    rintro _ _ ⟨_, _, _, _, called, _⟩
    cases called

/-- A call that was served by a getter gives way to those who hold the
instance. -/
theorem givesWay_of_served (held : w.object? o = some (.ofClass c state lease))
    (found : w.object? ref.id = some (.ofClass c' state' lease'))
    (lent : lease'.read? = some borrowed) (selected : c'.select call = .ok selection)
    (reads : selection.slot.reads = true) (result : Except Fault Value) :
    Span.GivesWay o lease.read?.isSome
      ⟨.called ref.id call (selection.slot.conclude result), w, w',
        [⟨.ran ref.id selection.slot selection.args, began, ended, meanwhile⟩]⟩ where
  starts := nofun
  served := by
    rintro _ other ⟨_, _, _, _, called, there, chosen⟩ _ _
    cases called
    cases found.symm.trans there
    cases selected.symm.trans chosen
    exact ⟨_, result, began, ended, meanwhile, rfl, rfl⟩
  refused := by
    rintro _ other ⟨_, _, _, _, called, there, chosen⟩ alone
    cases called
    cases found.symm.trans there
    cases found.symm.trans held
    cases selected.symm.trans chosen
    exact absurd ⟨(Lease.shared_of_read? lent).1, reads⟩ alone

end Holders

/-- While the state of an instance is held, a course neither changes it nor
lends it otherwise, and every call gives way. -/
theorem Course.givesWay {direct} {w w' : World σ V} {t : List (Span σ V)}
    (course : Course direct w t w') {o : Nat} {c : HostClass σ (Request σ V) (Answer σ V)}
    {state : σ} {lease : Lease} (held : w.object? o = some (.ofClass c state lease))
    (used : lease ≠ .free) :
    w'.object? o = w.object? o ∧ Throughout (Span.GivesWay o lease.read?.isSome) t := by
  -- A reader that borrows the instance meanwhile changes the lease, so the
  -- induction is on all leases in use.
  induction course generalizing lease with
  | still w => simp
  | followed first second ih₁ ih₂ =>
    obtain ⟨same₁, gives₁⟩ := ih₁ held used
    obtain ⟨same₂, gives₂⟩ := ih₂ (same₁.trans held) used
    exact ⟨same₂.trans same₁, throughout_append.mpr ⟨gives₁, gives₂⟩⟩
  | performed r answer meanwhile ih =>
    obtain ⟨same, gives⟩ := ih held used
    rw [throughout_singleton]
    exact ⟨same, Span.givesWay_of_not_concerns id, gives⟩
  | allocated w template => exact ⟨World.object?_allocate_of_some held _, throughout_nil _⟩
  | declared w c => exact ⟨rfl, throughout_nil _⟩
  | made idle =>
    constructor
    · simp [World.addObject, World.object?_allocate_of_some held]
    · exact throughout_nil _
  | wrapped found named idle empty => simp
  | dropped found => simp
  | configured w adapter options => simp
  | released w function => simp
  | @refused direct w ref call fault refusal =>
    rw [throughout_singleton]
    exact ⟨rfl, givesWay_of_refusal? refusal held used, throughout_nil _⟩
  | @stored direct w ref call a found =>
    have other : ref.id ≠ o := by
      rintro rfl
      cases found.symm.trans held
    rw [throughout_singleton]
    exact ⟨World.object?_modifyObject_ne other.symm _, Span.givesWay_of_not_concerns other,
      throughout_nil _⟩
  | read result found selected reads lent body ih =>
    obtain ⟨beside, held', used', shares⟩ := World.lease_while_reading held used found lent
    obtain ⟨kept, gives⟩ := ih held' used'
    rw [throughout_singleton, throughout_singleton]
    constructor
    · exact World.object?_endRead found lent kept
    · rw [shares] at gives
      exact ⟨givesWay_of_served held found lent selected reads result,
        givesWay_of_getter held found lent reads, gives⟩
  | @written direct w w' t ref call c' state' lease' borrowed selection result left found selected
      writes lent body ih =>
    have other : o ≠ ref.id := by
      rintro rfl
      cases found.symm.trans held
      exact used (Lease.write?_eq_some_iff.mp lent).1
    obtain ⟨kept, gives⟩ := ih ((World.object?_modifyObject_ne other _).trans held) used
    rw [throughout_singleton, throughout_singleton]
    constructor
    · exact World.object?_modifyObject_around other kept
    · exact ⟨Span.givesWay_of_not_concerns other.symm, Span.givesWay_of_not_concerns other.symm,
        gives⟩
  | @replied direct w w' t ref call surface replies outcome found body ih =>
    have other : ref.id ≠ o := by
      rintro rfl
      cases found.symm.trans held
    obtain ⟨kept, gives⟩ := ih held used
    rw [throughout_singleton, throughout_singleton]
    exact ⟨kept, Span.givesWay_of_not_concerns other, Span.givesWay_of_not_concerns id, gives⟩
  | held found lent body ih =>
    obtain ⟨beside, held', used', shares⟩ := World.lease_while_reading held used found lent
    obtain ⟨kept, gives⟩ := ih held' used'
    rw [throughout_singleton]
    constructor
    · exact World.object?_endRead found lent kept
    · rw [shares] at gives
      exact ⟨Span.givesWay_of_not_concerns id, gives⟩
  | used found body ih =>
    obtain ⟨same, gives⟩ := ih (by simpa using held) used
    exact ⟨by simpa using same, gives⟩
  | recalled kept body ih =>
    obtain ⟨same, gives⟩ := ih (by simpa using held) used
    exact ⟨by simpa using same, gives⟩
  | missed found uncached other =>
    rw [throughout_singleton]
    exact ⟨rfl, Span.givesWay_of_not_concerns id, throughout_nil _⟩
  | hit found cached use ih =>
    obtain ⟨same, gives⟩ := ih (by simpa using held) used
    rw [throughout_cons]
    exact ⟨by simpa using same, Span.givesWay_of_not_concerns id, throughout_nil _, gives⟩
  | minted found uncached isMethod hooks mint publish use ih₁ ih₂ =>
    subst mint publish
    obtain ⟨same₁, gives₁⟩ := ih₁ (by simpa using held) used
    obtain ⟨same₂, gives₂⟩ := ih₂ (by simpa [same₁] using held) used
    rw [throughout_cons]
    exact ⟨by simpa [same₁] using same₂, Span.givesWay_of_not_concerns id, gives₁, gives₂⟩

/-! ## Nothing runs beside a member that may not -/

/-- The object whose state an event borrows, and whether it shares the state
with other readers. -/
def Event.borrows? : Event σ V → Option (Nat × Bool)
  | ran object slot _ => some (object, slot.reads)
  | held object => some (object, true)
  | _ => none

/-- While a span borrows the state of an instance, the instance stays as it is
and everything inside the span gives way. -/
def Span.Excludes (span : Span σ V) : Prop :=
  ∀ o shared, span.event.borrows? = some (o, shared) →
    span.after.object? o = span.before.object? o ∧ Throughout (GivesWay o shared) span.inner

theorem Span.excludes_of_borrows?_eq_none {span : Span σ V} (none : span.event.borrows? = none) :
    span.Excludes := by
  intro o shared borrows
  rw [none] at borrows
  cases borrows

theorem Span.excludes_of_course {w w' : World σ V} {t : List (Span σ V)} (event : Event σ V)
    {o : Nat} {c : HostClass σ (Request σ V) (Answer σ V)} {state : σ} {lease : Lease}
    (body : Course none w t w') (began : w.object? o = some (.ofClass c state lease))
    (used : lease ≠ .free) (borrows : event.borrows? = some (o, lease.read?.isSome)) :
    Excludes ⟨event, w, w', t⟩ := by
  intro i shared same
  rw [borrows] at same
  cases same
  exact body.givesWay began used

/-- Every span of a course excludes what may not run beside it. -/
theorem Course.excludes {direct} {w w' : World σ V} {t : List (Span σ V)}
    (course : Course direct w t w') : Throughout Span.Excludes t := by
  intro span occurs
  cases course.arises span occurs with
  | @read _ _ _ o slot args _ _ _ _ found reads lent body =>
    obtain ⟨_, shared, used⟩ := Lease.shared_of_read? lent
    exact Span.excludes_of_course (.ran o slot args) body (World.object?_withLease found _) used
      (by rw [Event.borrows?, reads, shared])
  | @written _ _ _ o slot args _ _ _ _ found writes lent body =>
    obtain ⟨rfl, rfl⟩ := Lease.write?_eq_some_iff.mp lent
    exact Span.excludes_of_course (.ran o slot args) body (World.object?_withLease found _) nofun
      (by rw [Event.borrows?, writes]; rfl)
  | @held _ _ _ o _ _ _ _ found lent body =>
    obtain ⟨_, shared, used⟩ := Lease.shared_of_read? lent
    exact Span.excludes_of_course (.held o) body (World.object?_withLease found _) used
      (by rw [Event.borrows?, shared])
  | performed | refused | stored | called | replied | missed | hit | minted =>
    exact Span.excludes_of_borrows?_eq_none rfl

/-- In every run, at every depth and in any nesting, nothing runs beside a
running member or a hold that may not. Whatever is held when a run begins keeps
its state, and the whole run gives way to its holders. -/
theorem members_exclude_each_other (depth : Nat) (p : Routine σ V Unit) (w : World σ V) :
    let run := performProgram (entryAt depth) p w
    Throughout Span.Excludes run.trace ∧
      ∀ o, w.leaseOf o ≠ .free → run.world.object? o = w.object? o ∧
        Throughout (Span.GivesWay o (w.leaseOf o).read?.isSome) run.trace := by
  intro run
  have course := performProgram_course depth p w
  constructor
  · exact course.excludes
  · intro o used
    obtain ⟨c, state, held⟩ := World.exists_ofClass_of_leaseOf_ne_free used
    exact course.givesWay held used

/-- A class whose getter of `a` sets `b` and gets `c` of the first instance. -/
def meddler : HostClass Nat (Request Nat Value) (Answer Nat Value) where
  name := "Meddler"
  kind := .reference
  declarations := [
    .property "a" .int
      (some fun _ _ => .request (.call 0 (.setProperty "b" (.int 1))) fun _ =>
        .request (.call 0 (.getProperty "c")) fun _ => .done (.ok .null)) none,
    .property "b" .int none (some fun _ _ => .done (1, .ok .null)),
    .property "c" .int (some fun _ _ => .done (.ok .null)) none]
  indexer := none

/-- One instance of the class, whose `a` is got. -/
def meddling : Routine Nat Value Unit :=
  .request (.defineClass meddler) fun _ => .request (.makeInstance 0 0) fun _ =>
    .request (.call 0 (.getProperty "a")) fun _ => .done ()

/-- A getter that sets another property of its instance is refused, and its
instance stays as it was. -/
theorem meddling_is_refused :
    let run := performProgram (entryAt 1) meddling .empty
    ∃ getter setter : Span Nat Value, getter.Occurs run.trace ∧
      getter.event = .ran 0 (.getter 0) [] ∧ setter.Occurs getter.inner ∧
      setter.event = .called 0 (.setProperty "b" (.int 1)) (.error (.inUse "Meddler")) ∧
      getter.after.object? 0 = getter.before.object? 0 := by
  intro run
  obtain ⟨excludes, _⟩ := members_exclude_each_other 1 meddling .empty
  have getter := Span.Occurs.inside (List.mem_of_getElem? (l := run.trace) (i := 2) rfl)
    (.inside (List.mem_of_getElem? (i := 0) rfl) (.here (List.mem_of_getElem? (i := 0) rfl)))
  obtain ⟨kept, gives⟩ := excludes _ getter 0 true rfl
  refine ⟨_, _, getter, rfl, .inside (List.mem_of_getElem? (i := 0) rfl)
    (.here (List.mem_of_getElem? (i := 0) rfl)), ?_, kept⟩
  obtain ⟨call, event, _⟩ := (gives _ (.inside (List.mem_of_getElem? (i := 0) rfl)
    (.here (List.mem_of_getElem? (i := 0) rfl)))).refused meddler _
      ⟨_, _, 0, .readers 1, rfl, rfl, rfl⟩ (by decide)
  cases event
  rfl

end Membrane
