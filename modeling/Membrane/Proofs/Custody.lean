import Membrane.Proofs.Accounts
import Membrane.Proofs.HostActs
import Membrane.Proofs.MethodCache

/-!
# What is in hand during a run

A call of a function that the engine keeps has the function in hand until it
returns, a resolution its object's handle until the callable is made, and who
asked for a callable the callable until the request is over. What is in hand at a
span is read off the spans around it and before it. Accounts are in order at both
ends of every span of a run, with exactly this in hand.

The proof goes over the interpreter and not over courses, since a course does not
tell which request called a function.
-/

namespace Membrane

variable {σ V : Type}

namespace Span

/-- What is in hand inside a span, where `hand` is in hand around it. -/
def handInside (span : Span σ V) (hand : Hand) : Hand :=
  match span.event with
  | .performed (.callFunction function _) _ => hand.take function
  | .resolved adapter _ _ =>
    match span.before.livingAdapter? adapter with
    | some a => hand.own a.object.id
    | none => hand
  | _ => hand

/-- What is in hand from the end of a span on. -/
def handAfter (span : Span σ V) (hand : Hand) : Hand :=
  match span.event with
  | .resolved _ _ (some function) => hand.take function
  | _ => hand

end Span

mutual

/-- A property of a span and of all spans inside it, with what is in hand at
each. -/
def Span.Along (P : Hand → Span σ V → Prop) (hand : Hand) : Span σ V → Prop
  | ⟨event, before, after, inner⟩ =>
    P hand ⟨event, before, after, inner⟩ ∧
      Along P (Span.handInside ⟨event, before, after, inner⟩ hand) inner
termination_by structural span => span

/-- A property of every span of a trace, at every depth, with what is in hand
there. -/
def Along (P : Hand → Span σ V → Prop) (hand : Hand) : List (Span σ V) → Prop
  | [] => True
  | first :: rest => first.Along P hand ∧ Along P (first.handAfter hand) rest
termination_by structural trace => trace

end

section

variable {P Q : Hand → Span σ V → Prop} {hand : Hand} {t u : List (Span σ V)}

@[simp] theorem along_nil : Along P hand [] := trivial

theorem along_cons {span : Span σ V} {rest : List (Span σ V)} :
    Along P hand (span :: rest) ↔ P hand span ∧ Along P (span.handInside hand) span.inner ∧
      Along P (span.handAfter hand) rest := by
  cases span
  rw [Along, Span.Along, and_assoc]

theorem along_singleton {span : Span σ V} :
    Along P hand [span] ↔ P hand span ∧ Along P (span.handInside hand) span.inner := by
  rw [along_cons, and_iff_left along_nil]

/-- A trace after which no callable is in hand that was not before. -/
def HandsNothing (t : List (Span σ V)) : Prop :=
  ∀ span ∈ t, ∀ hand, span.handAfter hand = hand

theorem handsNothing_nil : HandsNothing ([] : List (Span σ V)) := by
  intro span mem
  cases mem

theorem along_append (nothing : HandsNothing t) :
    Along P hand (t ++ u) ↔ Along P hand t ∧ Along P hand u := by
  induction t with
  | nil => simp
  | cons first rest ih =>
    have same := nothing first List.mem_cons_self
    have later := ih fun span mem => nothing span (List.mem_cons_of_mem first mem)
    rw [List.cons_append, along_cons, along_cons, same, later, and_assoc, and_assoc]

mutual

theorem Span.Along.imp : (span : Span σ V) → (hand : Hand) →
    (∀ hand s, s.Occurs [span] → P hand s → Q hand s) → span.Along P hand → span.Along Q hand
  | ⟨_, _, _, inner⟩, _, weaker, ⟨here, inside⟩ =>
    ⟨weaker _ _ (.here List.mem_cons_self) here,
      Along.imp inner _ (fun hand s deeper => weaker hand s (.inside List.mem_cons_self deeper))
        inside⟩
termination_by structural span => span

/-- What follows from a property at the spans of a trace holds along it. -/
theorem Along.imp : (t : List (Span σ V)) → (hand : Hand) →
    (∀ hand s, s.Occurs t → P hand s → Q hand s) → Along P hand t → Along Q hand t
  | [], _, _, _ => trivial
  | first :: rest, _, weaker, ⟨here, later⟩ =>
    ⟨Span.Along.imp first _ (fun hand s occurs => weaker hand s
        (Span.occurs_append_iff.mpr (Or.inl occurs) : s.Occurs ([first] ++ rest))) here,
      Along.imp rest _ (fun hand s occurs => weaker hand s
        (Span.occurs_append_iff.mpr (Or.inr occurs) : s.Occurs ([first] ++ rest))) later⟩
termination_by structural trace => trace

end

/-- A span of a trace and all inside it have a property that holds along the trace. -/
theorem Along.of_mem (along : Along P hand t) {span : Span σ V} (mem : span ∈ t) :
    ∃ hand, P hand span ∧ Along P (span.handInside hand) span.inner := by
  induction t generalizing hand with
  | nil => cases mem
  | cons first rest ih =>
    obtain ⟨here, inside, later⟩ := along_cons.mp along
    rcases List.mem_cons.mp mem with rfl | further
    · exact ⟨hand, here, inside⟩
    · exact ih later further

/-- What holds along a trace holds at every span, with something in hand. -/
theorem Along.of_occurs (along : Along P hand t) {span : Span σ V} (occurs : span.Occurs t) :
    ∃ hand, P hand span := by
  induction occurs generalizing hand with
  | here mem =>
    obtain ⟨hand, here, _⟩ := along.of_mem mem
    exact ⟨hand, here⟩
  | inside mem deeper ih =>
    obtain ⟨_, _, inside⟩ := along.of_mem mem
    exact ih inside

end

/-! ## Acts that keep the accounts -/

/-- Accounts are in order at both ends of a span. -/
def Span.Booked (hand : Hand) (span : Span σ V) : Prop :=
  span.before.Accounts hand ∧ span.after.Accounts (span.handAfter hand)

/-- Whatever is in hand, accounts in order stay in order, along the whole trace
of an act, and nothing new is in hand at its end. -/
def Act.Keeps {α : Type} (act : Act σ V α) : Prop :=
  ∀ hand w, w.Accounts hand →
    Along Span.Booked hand (act w).trace ∧ HandsNothing (act w).trace ∧
      (act w).world.Accounts hand

namespace Act.Keeps

variable {α β : Type}

theorem bind {act : Act σ V α} {next : α → Act σ V β} (first : act.Keeps)
    (second : ∀ a, (next a).Keeps) : (act >>= next).Keeps := by
  intro hand w accounts
  obtain ⟨along, nothing, between⟩ := first hand w accounts
  obtain ⟨along', nothing', ends⟩ := second (act w).value hand (act w).world between
  refine ⟨(along_append nothing).mpr ⟨along, along'⟩, ?_, ends⟩
  intro span mem
  rcases List.mem_append.mp mem with early | late
  · exact nothing span early
  · exact nothing' span late

/-- An act that leaves no trace is judged by the world after it. -/
theorem of_quiet {act : Act σ V α} (quiet : ∀ w, (act w).trace = [])
    (after : ∀ hand w, w.Accounts hand → (act w).world.Accounts hand) : act.Keeps := by
  intro hand w accounts
  rw [quiet w]
  exact ⟨trivial, handsNothing_nil, after hand w accounts⟩

theorem update {f : World σ V → World σ V}
    (after : ∀ hand w, w.Accounts hand → (f w).Accounts hand) : (Act.update f).Keeps :=
  of_quiet (fun _ => rfl) after

theorem look (f : World σ V → α) : (Act.look f).Keeps :=
  of_quiet (fun _ => rfl) fun _ _ accounts => accounts

theorem pure (a : α) : (Act.pure a : Act σ V α).Keeps :=
  of_quiet (fun _ => rfl) fun _ _ accounts => accounts

/-- An event inside which nothing more is in hand, and after which neither. -/
theorem within {event : α → Event σ V} {act : Act σ V α} (keeps : act.Keeps)
    (inside : ∀ span : Span σ V, (∃ a, span.event = event a) → ∀ hand,
      span.handInside hand = hand ∧ span.handAfter hand = hand) : (act.within event).Keeps := by
  intro hand w accounts
  obtain ⟨along, _, ends⟩ := keeps hand w accounts
  have same := inside ⟨event (act w).value, w, (act w).world, (act w).trace⟩ ⟨_, rfl⟩
  refine ⟨along_singleton.mpr ⟨⟨accounts, ?_⟩, ?_⟩, ?_, ends⟩
  · rw [(same hand).2]
    exact ends
  · rw [(same hand).1]
    exact along
  · intro span mem h
    cases List.mem_singleton.mp mem
    exact (same h).2

end Act.Keeps

/-- Everything that host objects do on their own keeps the accounts. -/
theorem keeps_closed : HostClosed (σ := σ) (V := V) fun _ act => act.Keeps where
  pure := .pure
  bind := .bind
  look f _ := .look f
  modifyObject o f := .update fun _ _ accounts => accounts.modifyObject o f
  allocate object := .of_quiet (fun _ => rfl) fun _ _ accounts => accounts.allocate object
  within := by
    intro α event act host keeps
    apply keeps.within
    rintro span ⟨a, happened⟩ hand
    have isHost := host a
    rw [Span.handInside, Span.handAfter, happened]
    revert isHost
    cases event a with
    | called | ran | replied | held => exact fun _ => ⟨rfl, rfl⟩
    | performed | resolved => exact False.elim

/-! ## Requests -/

section

variable {entry : Entry σ V} {act : Act σ V (Answer σ V)} {hand : Hand} {w : World σ V}

/-- Nothing more is in hand inside a request that calls no function. -/
theorem keeps_performed (r : Request σ V) (keeps : act.Keeps)
    (other : ∀ function args, r ≠ .callFunction function args) :
    (act.within (.performed r)).Keeps := by
  apply keeps.within
  rintro span ⟨answer, happened⟩ hand
  rw [Span.handInside, Span.handAfter, happened]
  cases r with
  | callFunction function args => exact absurd rfl (other function args)
  | _ => exact ⟨rfl, rfl⟩

theorem keeps_withAdapter {act : Adapter V → Act σ V (Answer σ V)} (adapter : Nat)
    (each : ∀ a, (act a).Keeps) : (withAdapter adapter act).Keeps := by
  apply (Act.Keeps.look _).bind
  intro found
  cases found with
  | none => exact .pure _
  | some a => exact each a

theorem keeps_whileUsing {α : Type} {act : Act σ V α} (adapter : Nat) (keeps : act.Keeps) :
    (whileUsing adapter act).Keeps :=
  (Act.Keeps.update fun _ _ accounts => accounts.enterAdapter adapter).bind fun _ =>
    keeps.bind fun result =>
      (Act.Keeps.update fun _ _ accounts => accounts.leaveAdapter adapter).bind fun _ =>
        .pure result

theorem keeps_makeObject (object : HostObject σ (Request σ V) (Answer σ V)) :
    (makeObject object).Keeps :=
  .of_quiet (fun _ => rfl) fun _ _ accounts => accounts.addObject object

theorem keeps_adapt (handle : Nat) (codec : Codec V) (text : Option String)
    (reject : Option Bool) (trampoline : Trampoline) :
    (adapt (σ := σ) handle codec text reject trampoline).Keeps := by
  intro hand w accounts
  cases found : w.handle? handle with
  | none =>
    simp only [adapt, withHandle, bind, Act.bind, Act.look, found]
    exact ⟨trivial, handsNothing_nil, accounts⟩
  | some ref =>
    cases options : adapterOptions text reject with
    | error error =>
      simp only [adapt, withHandle, bind, Act.bind, Act.look, found, options]
      exact ⟨trivial, handsNothing_nil, accounts⟩
    | ok options' =>
      simp only [adapt, withHandle, bind, Act.bind, Act.look, found, options]
      exact ⟨trivial, handsNothing_nil, accounts.addAdapter (accounts.lt_length_of_handle? found) rfl⟩

theorem handsNothing_performed {r : Request σ V} {answer : Answer σ V} {w w' : World σ V}
    {t : List (Span σ V)} : HandsNothing [⟨.performed r answer, w, w', t⟩] := by
  intro span mem hand
  cases List.mem_singleton.mp mem
  rfl

/-- The function that is called is in hand until the call returns. -/
theorem keeps_callRetained (obeys : entry.Obeys fun _ act => act.Keeps) (function : Nat)
    (args : List V) :
    ((callRetained entry function args).within
      (.performed (.callFunction function args))).Keeps := by
  intro hand w accounts
  by_cases kept : function ∈ w.retained
  · have live := accounts.isLive_of_retained kept
    obtain ⟨f, found, _⟩ := World.exists_function?_of_isLive live
    obtain ⟨along, _, called⟩ := (keeps_closed.callClosed obeys).call f args _ _ (accounts.acquireFunction live)
    have ends := called.releaseFunction
    simp only [Act.within, callRetained, withRetained, bind, Act.bind, Act.look, Act.update, pure,
      Act.pure, kept, if_true, found, List.nil_append, List.append_nil]
    exact ⟨along_singleton.mpr ⟨⟨accounts, ends⟩, along⟩, handsNothing_performed, ends⟩
  · simp only [Act.within, callRetained, withRetained, bind, Act.bind, Act.look, kept, if_false]
    exact ⟨along_singleton.mpr ⟨⟨accounts, accounts⟩, trivial⟩, handsNothing_performed, accounts⟩

/-! ## Resolutions -/

/-- Who asked for a callable has it in hand until the request is over. -/
theorem keeps_useFunction (obeys : entry.Obeys fun _ act => act.Keeps) {function : Nat}
    (accounts : w.Accounts (hand.take function)) (retain : Bool)
    (args : Option (List (Literal V))) :
    let used := useFunction entry function retain args w
    Along Span.Booked (hand.take function) used.trace ∧ used.world.Accounts hand := by
  have retained : (if retain then w.retain function else w).Accounts (hand.take function) := by
    cases retain with
    | false => exact accounts
    | true => exact accounts.retain (accounts.isLive_of_mem List.mem_cons_self)
  obtain ⟨along, _, called⟩ := keeps_closed.callAtOnce obeys function args _ _ retained
  rw [useFunction_eq]
  exact ⟨along, called.releaseFunction⟩

variable {adapter : Nat} {name : String} {duringWrap duringMake : Act σ V Unit}

/-- While a callable is made, the handle of its binding is in hand; then the
callable is. The adapter lives on during the hooks, since an operation runs on
it. -/
theorem keeps_findCallable {a : Adapter V} (accounts : w.Accounts hand)
    (living : w.livingAdapter? adapter = some a) (used : 0 < a.running)
    (uncached : a.cached? name = none)
    (isMethod : ((w.surface a.object).members name).head? = some .method)
    (wrapping : duringWrap.Keeps) (making : duringMake.Keeps)
    (wrappingCourses : duringWrap.Courses none) (makingCourses : duringMake.Courses none) :
    let outcome := findCallable adapter name duringWrap duringMake w
    ∃ function, outcome.value = some function ∧
      outcome.world.Accounts (hand.take function) ∧
      Along Span.Booked (hand.own a.object.id) outcome.trace := by
  have owned := accounts.acquireHandle (accounts.lt_length_of_livingAdapter? living)
  obtain ⟨along, nothing, wrapped⟩ := wrapping _ _ owned
  obtain ⟨along', _, ready⟩ := making _ _ wrapped
  have course := Course.followed (wrappingCourses (w.acquireHandle a.object.id)) (makingCourses _)
  obtain ⟨b, still⟩ := (course.retains adapter).1.operated a living used
  have minted := ready.mint ⟨a.object, name⟩ a.trampoline a.codec
  have published := minted.publish still name
  simp only [findCallable_of_method living uncached isMethod]
  exact ⟨_, rfl, published, (along_append nothing).mpr ⟨along, along'⟩⟩

/-- A resolution that keeps the accounts is followed by the use of what it
gave. -/
theorem keeps_resolved (obeys : entry.Obeys fun _ act => act.Keeps) {a : Adapter V}
    {outcome : Outcome σ V (Option Nat)} (accounts : w.Accounts hand)
    (found : w.adapter? adapter = some a)
    (finds : findCallable adapter name duringWrap duringMake (w.enterAdapter adapter) = outcome)
    (after : outcome.world.Accounts
      (Span.handAfter ⟨.resolved adapter name outcome.value, w, outcome.world, []⟩ hand))
    (inside : Along Span.Booked (hand.own a.object.id) outcome.trace) (retain : Bool)
    (args : Option (List (Literal V))) :
    let resolved := resolveCallable entry adapter name retain args duringWrap duringMake w
    Along Span.Booked hand resolved.trace ∧ resolved.world.Accounts hand := by
  have booked : Span.Booked hand
      ⟨.resolved adapter name outcome.value, w.enterAdapter adapter, outcome.world,
        outcome.trace⟩ := ⟨accounts.enterAdapter adapter, after⟩
  have within : Along Span.Booked
      (Span.handInside ⟨.resolved adapter name outcome.value, w.enterAdapter adapter,
        outcome.world, outcome.trace⟩ hand) outcome.trace := by
    rw [Span.handInside]
    simp only [World.livingAdapter?_enterAdapter_of_adapter? found]
    exact inside
  have left := after.leaveAdapter adapter
  rw [resolveCallable_of_findCallable found finds]
  cases given : outcome.value with
  | none =>
    rw [given] at booked within left
    exact ⟨along_singleton.mpr ⟨booked, within⟩, left⟩
  | some function =>
    rw [given] at booked within left
    obtain ⟨along, ends⟩ := keeps_useFunction obeys left retain args
    exact ⟨along_cons.mpr ⟨booked, within, along⟩, ends⟩

/-- Whichever way a callable is found, or none, accounts in order stay so. -/
theorem keeps_resolveCallable (adapter : Nat) (obeys : entry.Obeys fun _ act => act.Keeps)
    (accounts : w.Accounts hand) (retain : Bool) (args : Option (List (Literal V)))
    (wrapping : duringWrap.Keeps) (making : duringMake.Keeps)
    (wrappingCourses : duringWrap.Courses none) (makingCourses : duringMake.Courses none) :
    let resolved := resolveCallable entry adapter name retain args duringWrap duringMake w
    Along Span.Booked hand resolved.trace ∧ resolved.world.Accounts hand := by
  cases found : w.adapter? adapter with
  | none =>
    simp only [resolveCallable, withAdapter, found, bind, Act.bind, Act.look, pure, Act.pure,
      List.nil_append]
    exact ⟨trivial, accounts⟩
  | some a =>
    have living := World.livingAdapter?_enterAdapter_of_adapter? found
    have entered := accounts.enterAdapter adapter
    cases cached : a.cached? name with
    | some function =>
      have live := entered.isLive_of_cached living (Adapter.mem_functions_of_cached? cached)
      exact keeps_resolved obeys accounts found (findCallable_of_cached living cached)
        (entered.acquireFunction live) trivial retain args
    | none =>
      by_cases isMethod : ((w.surface a.object).members name).head? = some .method
      · obtain ⟨function, given, after, inside⟩ := keeps_findCallable entered living
          (Nat.succ_pos _) cached isMethod wrapping making wrappingCourses makingCourses
        refine keeps_resolved obeys accounts found rfl ?_ inside retain args
        rw [given]
        exact after
      · exact keeps_resolved obeys accounts found (findCallable_of_other living cached isMethod)
          entered trivial retain args

end

/-! ## Every run keeps the accounts -/

mutual

/-- Every request keeps the accounts, at any depth to which members re-enter. -/
theorem perform_keeps {entry : Entry σ V} (obeys : entry.Obeys fun _ act => act.Keeps)
    (sound : entry.Courses) : (r : Request σ V) → ((perform entry r).within (.performed r)).Keeps
  | .ask query => keeps_performed _ (.pure _) nofun
  | .defineClass hostClass => keeps_performed _
      (.of_quiet (fun _ => rfl) fun _ _ accounts => ⟨accounts.references, accounts.handles⟩) nofun
  | .makeInstance number state => keeps_performed _
      (keeps_closed.makeInstance keeps_makeObject number state) nofun
  | .makeFilled element length => keeps_performed _ (keeps_makeObject _) nofun
  | .makeArray element values => keeps_performed _
      (keeps_closed.makeArray keeps_makeObject element values) nofun
  | .makeHandwritten surface replies => keeps_performed _ (keeps_makeObject _) nofun
  | .inspect handle => keeps_performed _
      (keeps_closed.withHandle handle fun _ => (Act.Keeps.look _).bind fun _ => .pure _) nofun
  | .describe handle name => keeps_performed _
      (keeps_closed.withHandle handle fun _ => (Act.Keeps.look _).bind fun _ => .pure _) nofun
  | .contents handle => keeps_performed _ (keeps_closed.contents handle) nofun
  | .call handle call => keeps_performed _
      (keeps_closed.withHandle handle fun ref =>
        (keeps_closed.callObject obeys ref call).bind fun _ => .pure _) nofun
  | .hold handle program => keeps_performed _
      (keeps_closed.holdState handle (performProgram_keeps obeys sound program)) nofun
  | .adapt handle codec text reject trampoline => keeps_performed _
      (keeps_adapt handle codec text reject trampoline) nofun
  | .dropAdapter adapter => keeps_performed _
      (keeps_withAdapter adapter fun _ =>
        (Act.Keeps.update fun _ _ accounts => accounts.dropAdapter adapter).bind fun _ =>
          (Act.Keeps.look _).bind fun _ => .pure _) nofun
  | .inspectAdapter adapter => keeps_performed _
      (keeps_withAdapter adapter fun _ => (Act.Keeps.look _).bind fun _ =>
        (Act.Keeps.look _).bind fun _ => .pure _) nofun
  | .setOptions adapter options => keeps_performed _
      (keeps_withAdapter adapter fun _ =>
        (Act.Keeps.update fun _ _ accounts =>
          accounts.modifyAdapter adapter (f := fun a => { a with options := options })
            (fun _ => rfl) fun _ => rfl).bind fun _ => .pure _) nofun
  | .access adapter access => keeps_performed _
      (keeps_withAdapter adapter fun a =>
        (keeps_whileUsing adapter ((keeps_closed.callClosed obeys).access a access)).bind fun _ => .pure _) nofun
  | .resolve adapter name retain args duringWrap duringMake => by
    intro hand w accounts
    obtain ⟨along, ends⟩ := keeps_resolveCallable adapter obeys accounts retain args
      (performProgram_keeps obeys sound duringWrap) (performProgram_keeps obeys sound duringMake)
      (performProgram_courses sound duringWrap) (performProgram_courses sound duringMake)
    exact ⟨along_singleton.mpr ⟨⟨accounts, ends⟩, along⟩, handsNothing_performed, ends⟩
  | .callFunction function args => keeps_callRetained obeys function args
  | .inspectFunction function => keeps_performed _
      (keeps_closed.withRetained function fun _ => .pure _) nofun
  | .release function => keeps_performed _
      ((Act.Keeps.look _).bind fun _ =>
        (Act.Keeps.update fun _ _ accounts => accounts.release function).bind fun _ =>
          (Act.Keeps.look _).bind fun _ => .pure _) nofun
termination_by structural r => r

/-- A program that belongs to a request keeps the accounts. -/
theorem performProgram_keeps {entry : Entry σ V} (obeys : entry.Obeys fun _ act => act.Keeps)
    (sound : entry.Courses) : (p : Routine σ V Unit) → (performProgram entry p).Keeps
  | .done result => .pure result
  | .fresh _ next =>
    Act.Keeps.bind (keeps_closed.allocate _) fun ref => performProgram_keeps obeys sound (next ref)
  | .held _ next =>
    Act.Keeps.bind (.look _) fun ref => performProgram_keeps obeys sound (next ref)
  | .room next => performProgram_keeps obeys sound (next true)
  | .request r next =>
    Act.Keeps.bind (perform_keeps obeys sound r) fun answer =>
      performProgram_keeps obeys sound (next (some answer))
termination_by structural p => p

end

theorem keeps_entryAt (depth : Nat) :
    (entryAt depth : Entry σ V).Obeys fun _ act => act.Keeps :=
  Entry.obeys_entryAt (fun depth obeys => perform_keeps obeys (entryAt_courses depth)) depth

/-- A run from the outside keeps the accounts. -/
theorem performProgram_entryAt_keeps (depth : Nat) (p : Routine σ V Unit) :
    (performProgram (entryAt depth) p).Keeps :=
  performProgram_keeps (keeps_entryAt depth) (entryAt_courses depth) p

theorem perform_entryAt_keeps (depth : Nat) (r : Request σ V) :
    ((perform (entryAt depth) r).within (.performed r)).Keeps :=
  perform_keeps (keeps_entryAt depth) (entryAt_courses depth) r

end Membrane
