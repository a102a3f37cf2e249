import Membrane.Codec.Direct
import Membrane.Proofs.Spans
import Membrane.Proofs.Steps

/-!
# The callables of an adapter

Between the look into the cache and the entry of a callable the engine may do
anything, also resolve the same name through the same adapter. What an adapter
remembers at the end of a course is what it remembered at the beginning and what
was resolved meanwhile, at every depth; so all resolutions of a name give one
callable, and an outer one gives up its own for one that came first.
-/

namespace Membrane

variable {σ V : Type}

/-! ## What is resolved in a trace -/

/-- Somewhere in a trace an adapter is asked for a name and gives a callable. -/
def Resolves (t : List (Span σ V)) (i : Nat) (name : String) (function : Nat) : Prop :=
  Somewhere (· = .resolved i name (some function)) t

/-- A callable is known for a name: it was cached at the beginning, or it is
resolved meanwhile. -/
def Recalls (w : World σ V) (t : List (Span σ V)) (i : Nat) (name : String) (function : Nat) :
    Prop :=
  (w.callables i).lookup name = some function ∨ Resolves t i name function

/-- What an adapter remembers through a course of events. -/
structure Remembers (i : Nat) (w : World σ V) (t : List (Span σ V)) (w' : World σ V) : Prop where
  grows : w.Grows i w'
  /-- An adapter on which operations run lives on, and as many run in the end. -/
  operated : ∀ a, w.livingAdapter? i = some a → 0 < a.running →
    ∃ a', w'.livingAdapter? i = some a'
  running : ∀ a a', w.livingAdapter? i = some a → w'.livingAdapter? i = some a' →
    a'.running = a.running
  /-- Only an adapter that lives gives a callable. -/
  asked : ∀ name function, Resolves t i name function →
    i < w'.adapters.length ∧ (i < w.adapters.length → ∃ a, w.livingAdapter? i = some a)
  unique : ∀ name f g, Recalls w t i name f → Recalls w t i name g → f = g
  cached_iff : ∀ a', w'.livingAdapter? i = some a' → ∀ name function,
    a'.cached? name = some function ↔ Recalls w t i name function
  added : ∀ a', w'.livingAdapter? i = some a' → ∃ new, a'.methods = w.callables i ++ new ∧
    ∀ name function, (name, function) ∈ new → Resolves t i name function

/-- Whether an event gives a callable. -/
def Event.Gives : Event σ V → Prop
  | resolved _ _ function => function.isSome = true
  | _ => False

theorem Event.ne_resolved {event : Event σ V} (unasked : ¬ event.Gives) (i : Nat) (name : String)
    (function : Nat) : event ≠ .resolved i name (some function) := by
  rintro rfl
  exact unasked rfl

namespace Remembers

variable {i : Nat} {w w' w'' : World σ V} {t t' : List (Span σ V)}

/-- Where nothing is resolved and the adapter is left alone, it remembers what it
did. -/
theorem quiet (grows : w.Grows i w')
    (operated : ∀ a, w.livingAdapter? i = some a → 0 < a.running →
      ∃ a', w'.livingAdapter? i = some a')
    (running : ∀ a a', w.livingAdapter? i = some a → w'.livingAdapter? i = some a' →
      a'.running = a.running)
    (kept : ∀ a', w'.livingAdapter? i = some a' → a'.methods = w.callables i) :
    Remembers i w [] w' where
  grows := grows
  operated := operated
  running := running
  asked name function resolves := absurd resolves (not_somewhere_nil _)
  unique name f g recallsF recallsG := by
    rcases recallsF with cachedF | resolves
    · rcases recallsG with cachedG | resolves
      · exact Option.some.inj (cachedF.symm.trans cachedG)
      · exact absurd resolves (not_somewhere_nil _)
    · exact absurd resolves (not_somewhere_nil _)
  cached_iff a' living name function := by
    rw [Adapter.cached?, kept a' living, Recalls]
    exact (or_iff_left (not_somewhere_nil _)).symm
  added a' living := ⟨[], by rw [kept a' living, List.append_nil], fun _ _ mem => by cases mem⟩

theorem of_same (numbered : w.adapters.length ≤ w'.adapters.length)
    (same : w'.livingAdapter? i = w.livingAdapter? i) : Remembers i w [] w' := by
  apply quiet (.of_same numbered same)
  · intro a living _
    exact ⟨a, same.trans living⟩
  · intro a a' living living'
    rw [same, living] at living'
    cases living'
    rfl
  · intro a' living
    rw [same] at living
    exact (World.callables_of_livingAdapter? living).symm

theorem of_adapters (same : w'.adapters = w.adapters) : Remembers i w [] w' :=
  of_same (Nat.le_of_eq (congrArg List.length same.symm)) (World.livingAdapter?_congr same i)

theorem refl (i : Nat) (w : World σ V) : Remembers i w [] w :=
  of_adapters rfl

theorem modifyObject (w : World σ V) (o : Nat)
    (f : HostObject σ (Request σ V) (Answer σ V) → HostObject σ (Request σ V) (Answer σ V)) :
    Remembers i w [] (w.modifyObject o f) :=
  of_adapters rfl

theorem recalls_congr
    (same : ∀ name function, Resolves t' i name function ↔ Resolves t i name function)
    (name : String) (function : Nat) : Recalls w t' i name function ↔ Recalls w t i name function :=
  or_congr_right (same name function)

/-- Only what is resolved counts of a trace. -/
theorem congr (remembers : Remembers i w t w')
    (same : ∀ name function, Resolves t' i name function ↔ Resolves t i name function) :
    Remembers i w t' w' where
  grows := remembers.grows
  operated := remembers.operated
  running := remembers.running
  asked name function resolves := remembers.asked name function ((same name function).mp resolves)
  unique name f g recallsF recallsG := by
    rw [recalls_congr same] at recallsF recallsG
    exact remembers.unique name f g recallsF recallsG
  cached_iff a' living name function := by
    rw [remembers.cached_iff a' living, recalls_congr same]
  added a' living := by
    obtain ⟨new, methods, resolved⟩ := remembers.added a' living
    exact ⟨new, methods, fun name function mem =>
      (same name function).mpr (resolved name function mem)⟩

/-- A known callable has an adapter that was given a number. -/
theorem lt_of_recalls (remembers : Remembers i w t w') {name : String} {function : Nat}
    (recalls : Recalls w t i name function) : i < w'.adapters.length := by
  rcases recalls with cached | resolves
  · cases living : w.livingAdapter? i with
    | none =>
      rw [World.callables_of_none living] at cached
      cases cached
    | some a =>
      exact Nat.lt_of_lt_of_le (World.lt_length_of_livingAdapter? living)
        remembers.grows.numbered
  · exact (remembers.asked name function resolves).1

/-- What is known is cached while the adapter lives, and so it is known later. -/
theorem recalls_later (remembers : Remembers i w t w') {a' : Adapter V}
    (living : w'.livingAdapter? i = some a') {name : String} {function : Nat}
    (recalls : Recalls w t i name function) : Recalls w' t' i name function := by
  left
  rw [World.callables_of_livingAdapter? living]
  exact (remembers.cached_iff a' living name function).mpr recalls

/-- What is cached later was known before. -/
theorem recalls_of_cached (remembers : Remembers i w t w') {name : String} {function : Nat}
    (cached : (w'.callables i).lookup name = some function) : Recalls w t i name function := by
  cases living : w'.livingAdapter? i with
  | none =>
    rw [World.callables_of_none living] at cached
    cases cached
  | some a' =>
    rw [World.callables_of_livingAdapter? living] at cached
    exact (remembers.cached_iff a' living name function).mp cached

/-- A callable that is known first and one that is resolved later are the same. -/
theorem eq_of_resolves_later (first : Remembers i w t w') (second : Remembers i w' t' w'')
    {name : String} {f g : Nat} (recalls : Recalls w t i name f)
    (resolves : Resolves t' i name g) : f = g := by
  obtain ⟨a', living⟩ := (second.asked name g resolves).2 (first.lt_of_recalls recalls)
  exact second.unique name f g (first.recalls_later living recalls) (Or.inr resolves)

/-- An adapter that lives in the end and was numbered at the beginning lived
then. -/
theorem living_before (grows : w.Grows i w') (old : i < w.adapters.length) {a' : Adapter V}
    (living : w'.livingAdapter? i = some a') : ∃ a, w.livingAdapter? i = some a := by
  rcases grows.living_or_new living with found | new
  · exact found
  · exact absurd old (Nat.not_lt_of_le new)

theorem recalls_append_iff {name : String} {function : Nat} :
    Recalls w (t ++ t') i name function ↔
      Recalls w t i name function ∨ Resolves t' i name function := by
  rw [Recalls, Recalls, Resolves, somewhere_append_iff, or_assoc]
  rfl

/-- What is remembered through one course and then through another is remembered
through both. -/
theorem append (first : Remembers i w t w') (second : Remembers i w' t' w'') :
    Remembers i w (t ++ t') w'' where
  grows := first.grows.trans second.grows
  operated a living busy := by
    obtain ⟨a', living'⟩ := first.operated a living busy
    have busy' : 0 < a'.running := by
      rw [first.running a a' living living']
      exact busy
    exact second.operated a' living' busy'
  running a a'' living living'' := by
    have inside := World.lt_length_of_livingAdapter? living
    obtain ⟨a', living'⟩ :=
      living_before second.grows (Nat.lt_of_lt_of_le inside first.grows.numbered) living''
    exact (second.running a' a'' living' living'').trans (first.running a a' living living')
  asked name function resolves := by
    rcases somewhere_append_iff.mp resolves with early | late
    · obtain ⟨inside, living⟩ := first.asked name function early
      exact ⟨Nat.lt_of_lt_of_le inside second.grows.numbered, living⟩
    · obtain ⟨inside, living⟩ := second.asked name function late
      constructor
      · exact inside
      · intro old
        obtain ⟨a', living'⟩ := living (Nat.lt_of_lt_of_le old first.grows.numbered)
        exact living_before first.grows old living'
  unique name f g recallsF recallsG := by
    rcases recalls_append_iff.mp recallsF with earlyF | lateF
    · rcases recalls_append_iff.mp recallsG with earlyG | lateG
      · exact first.unique name f g earlyF earlyG
      · exact first.eq_of_resolves_later second earlyF lateG
    · rcases recalls_append_iff.mp recallsG with earlyG | lateG
      · exact (first.eq_of_resolves_later second earlyG lateF).symm
      · exact second.unique name f g (Or.inr lateF) (Or.inr lateG)
  cached_iff a'' living'' name function := by
    rw [second.cached_iff a'' living'', recalls_append_iff]
    constructor
    · rintro (cached | late)
      · exact Or.inl (first.recalls_of_cached cached)
      · exact Or.inr late
    · rintro (early | late)
      · obtain ⟨a', living'⟩ := living_before second.grows (first.lt_of_recalls early) living''
        exact first.recalls_later living' early
      · exact Or.inr late
  added a'' living'' := by
    obtain ⟨new₂, methods₂, resolved₂⟩ := second.added a'' living''
    rcases second.grows.living_or_new living'' with ⟨a', living'⟩ | beyond
    · obtain ⟨new₁, methods₁, resolved₁⟩ := first.added a' living'
      have methods : a''.methods = w.callables i ++ (new₁ ++ new₂) := by
        rw [methods₂, World.callables_of_livingAdapter? living', methods₁, List.append_assoc]
      have resolved : ∀ name function, (name, function) ∈ new₁ ++ new₂ →
          Resolves (t ++ t') i name function := by
        intro name function mem
        apply somewhere_append_iff.mpr
        rcases List.mem_append.mp mem with early | late
        · exact Or.inl (resolved₁ name function early)
        · exact Or.inr (resolved₂ name function late)
      exact ⟨new₁ ++ new₂, methods, resolved⟩
    · have none' := World.livingAdapter?_eq_none beyond
      have none := World.livingAdapter?_eq_none (Nat.le_trans first.grows.numbered beyond)
      have methods : a''.methods = w.callables i ++ new₂ := by
        rw [methods₂, World.callables_of_none none', World.callables_of_none none]
      exact ⟨new₂, methods, fun name function mem =>
        somewhere_append_iff.mpr (Or.inr (resolved₂ name function mem))⟩

theorem preceded (step : Remembers i w [] w') (later : Remembers i w' t w'') :
    Remembers i w t w'' :=
  step.append later

theorem continued (earlier : Remembers i w t w') (step : Remembers i w' [] w'') :
    Remembers i w t w'' := by
  rw [← List.append_nil t]
  exact earlier.append step

/-- An event that gives no callable of the adapter adds nothing to what lies
inside it. -/
theorem around {span : Span σ V} (remembers : Remembers i w span.inner w')
    (unasked : ∀ name function, span.event ≠ .resolved i name (some function)) :
    Remembers i w [span] w' := by
  apply remembers.congr
  intro name function
  rw [Resolves, somewhere_singleton_iff]
  exact or_iff_right (unasked name function)

/-- While an adapter is used it has the callables that it had. -/
theorem callables_enterAdapter {a : Adapter V} (found : w.adapter? i = some a) :
    (w.enterAdapter i).callables i = w.callables i := by
  rw [World.callables_of_livingAdapter? (World.livingAdapter?_enterAdapter_of_adapter? found),
    World.callables_of_livingAdapter? (World.livingAdapter?_of_adapter? found).1]

theorem recalls_enterAdapter_iff {a : Adapter V} (found : w.adapter? i = some a) {name : String}
    {function : Nat} : Recalls (w.enterAdapter i) t i name function ↔ Recalls w t i name function := by
  rw [Recalls, Recalls, callables_enterAdapter found]

/-- When an operation ends, its adapter lives on with what it cached meanwhile,
or is torn down. -/
theorem livingAdapter?_leaveAdapter {a : Adapter V} (body : Remembers i (w.enterAdapter i) t w')
    (found : w.adapter? i = some a) :
    ∃ b, w'.livingAdapter? i = some b ∧
      (w'.leaveAdapter i).livingAdapter? i =
        (some { b with running := a.running }).filter Adapter.isUsed := by
  have entered := World.livingAdapter?_enterAdapter_of_adapter? found
  obtain ⟨b, living⟩ := body.operated _ entered (Nat.succ_pos _)
  have counted : b.running = a.running + 1 := body.running _ b entered living
  have left : (w'.leaveAdapter i).livingAdapter? i =
      (some { b with running := a.running }).filter Adapter.isUsed := by
    rw [World.livingAdapter?_leaveAdapter, if_pos rfl, living, Option.map_some, counted,
      Nat.add_sub_cancel]
  exact ⟨b, living, left⟩

/-- What the adapter of an operation remembers while the operation runs it
remembers through the operation. -/
theorem operation_self {a : Adapter V} (body : Remembers i (w.enterAdapter i) t w')
    (found : w.adapter? i = some a) : Remembers i w t (w'.leaveAdapter i) := by
  obtain ⟨living, _⟩ := World.livingAdapter?_of_adapter? found
  obtain ⟨b, living', left⟩ := livingAdapter?_leaveAdapter body found
  constructor
  case grows =>
    exact ((w.leads_enterAdapter i).grows i).trans
      (body.grows.trans ((w'.leads_leaveAdapter i).grows i))
  case operated =>
    intro a₀ living₀ busy
    cases living.symm.trans living₀
    exact ⟨_, left.trans (Option.filter_eq_some_iff.mpr ⟨rfl, by simp [Adapter.isUsed, busy]⟩)⟩
  case running =>
    intro a₀ a' living₀ ended
    cases living.symm.trans living₀
    cases (Option.filter_eq_some_iff.mp (left.symm.trans ended)).1
    rfl
  case asked =>
    intro name function resolves
    rw [World.length_adapters_leaveAdapter]
    exact ⟨(body.asked name function resolves).1, fun _ => ⟨a, living⟩⟩
  case unique =>
    intro name f g recallsF recallsG
    rw [← recalls_enterAdapter_iff found] at recallsF recallsG
    exact body.unique name f g recallsF recallsG
  case cached_iff =>
    intro a' ended name function
    cases (Option.filter_eq_some_iff.mp (left.symm.trans ended)).1
    rw [← recalls_enterAdapter_iff found]
    exact body.cached_iff b living' name function
  case added =>
    intro a' ended
    cases (Option.filter_eq_some_iff.mp (left.symm.trans ended)).1
    rw [← callables_enterAdapter found]
    exact body.added b living'

/-- What is remembered while an operation runs on an adapter is remembered
through the operation. -/
theorem operation {adapter : Nat} {a : Adapter V} (body : Remembers i (w.enterAdapter adapter) t w')
    (found : w.adapter? adapter = some a) :
    Remembers i w t (w'.leaveAdapter adapter) := by
  by_cases same : i = adapter
  · subst same
    exact body.operation_self found
  · have began := of_same (Nat.le_of_eq (w.length_adapters_enterAdapter adapter).symm)
      ((w.livingAdapter?_enterAdapter adapter i).trans (if_neg same))
    have ended := of_same (Nat.le_of_eq (w'.length_adapters_leaveAdapter adapter).symm)
      ((w'.livingAdapter?_leaveAdapter adapter i).trans (if_neg same))
    exact began.preceded (body.continued ended)

/-- So it is where the engine keeps a callable when the operation ends. -/
theorem handOver {adapter : Nat} {a : Adapter V} (body : Remembers i (w.enterAdapter adapter) t w')
    (found : w.adapter? adapter = some a) (function : Nat) (retain : Bool) :
    Remembers i w t (w'.handOver adapter function retain) := by
  cases retain with
  | false => exact body.operation found
  | true => exact (body.operation found).continued (.of_adapters (World.adapters_retain _ function))

theorem recalls_resolved_iff {name n : String} {function g : Nat} {before after : World σ V} :
    Recalls w [⟨.resolved i name (some function), before, after, t⟩] i n g ↔
      Recalls w t i n g ∨ n = name ∧ function = g := by
  rw [Recalls, Recalls, Resolves, somewhere_singleton_iff, Event.resolved.injEq,
    Option.some.injEq, or_left_comm, or_comm]
  simp only [true_and, eq_comm, Resolves]

section Resolution

variable {name : String} {made function : Nat} {b : Adapter V} {before after : World σ V}

/-- A callable that came first is the one that is given. -/
theorem eq_of_recalls (hooks : Remembers i w t w') (living : w'.livingAdapter? i = some b)
    (gives : (b.remember name made).cached? name = some function) {g : Nat}
    (recalls : Recalls w t i name g) : g = function := by
  have cached := (hooks.cached_iff b living name g).mpr recalls
  rw [Adapter.remember_of_cached? cached] at gives
  exact Option.some.inj (cached.symm.trans gives)

/-- What an adapter that remembers has beyond what it had was resolved. -/
theorem added_of_remember (hooks : Remembers i w t w') (living : w'.livingAdapter? i = some b)
    (gives : (b.remember name made).cached? name = some function) :
    ∃ new, (b.remember name made).methods = w.callables i ++ new ∧
      ∀ n g, (n, g) ∈ new →
        Resolves [⟨.resolved i name (some function), before, after, t⟩] i n g := by
  obtain ⟨new, methods, resolves⟩ := hooks.added b living
  cases cached : b.cached? name with
  | some winner =>
    rw [Adapter.remember_of_cached? cached]
    exact ⟨new, methods, fun n g mem => Somewhere.inside (resolves n g mem)⟩
  | none =>
    rw [Adapter.cached?_remember_of_uncached cached] at gives
    have longer : (b.remember name made).methods = w.callables i ++ (new ++ [(name, made)]) := by
      rw [Adapter.methods_remember cached, methods, List.append_assoc]
    have resolved : ∀ n g, (n, g) ∈ new ++ [(name, made)] →
        Resolves [⟨.resolved i name (some function), before, after, t⟩] i n g := by
      intro n g mem
      rcases List.mem_append.mp mem with old | last
      · exact Somewhere.inside (resolves n g old)
      · cases List.mem_singleton.mp last
        exact somewhere_singleton_iff.mpr (Or.inl (by rw [Option.some.inj gives]))
    exact ⟨_, longer, resolved⟩

/-- A resolution through an adapter adds the callable that it gives: its own, or
another that came first. -/
theorem resolved_self (hooks : Remembers i w t w')
    (asked : ∃ a, w.livingAdapter? i = some a) (living : w'.livingAdapter? i = some b)
    (numbers : w''.adapters.length = w'.adapters.length)
    (published : w''.livingAdapter? i = some (b.remember name made))
    (gives : (b.remember name made).cached? name = some function) :
    Remembers i w [⟨.resolved i name (some function), before, after, t⟩] w'' := by
  constructor
  case grows => exact hooks.grows.trans (.of_remember numbers living published)
  case operated =>
    intro _ _ _
    exact ⟨_, published⟩
  case running =>
    intro a a' found found'
    cases published.symm.trans found'
    exact Adapter.running_remember.trans (hooks.running a b found living)
  case asked =>
    intro _ _ _
    exact ⟨World.lt_length_of_livingAdapter? published, fun _ => asked⟩
  case unique =>
    intro n f g recallsF recallsG
    rcases recalls_resolved_iff.mp recallsF with earlyF | ⟨rfl, rfl⟩
    · rcases recalls_resolved_iff.mp recallsG with earlyG | ⟨rfl, rfl⟩
      · exact hooks.unique n f g earlyF earlyG
      · exact hooks.eq_of_recalls living gives earlyF
    · rcases recalls_resolved_iff.mp recallsG with earlyG | ⟨_, rfl⟩
      · exact (hooks.eq_of_recalls living gives earlyG).symm
      · rfl
  case cached_iff =>
    intro a' found' n g
    cases published.symm.trans found'
    rw [recalls_resolved_iff, ← hooks.cached_iff b living, Adapter.cached?_remember_iff, gives,
      Option.some.injEq]
  case added =>
    intro a' found'
    cases published.symm.trans found'
    exact hooks.added_of_remember living gives

/-- A resolution adds the callable that it gives to its adapter, and to no
other. -/
theorem resolved {adapter : Nat} (hooks : Remembers i w t w')
    (asked : ∃ a, w.livingAdapter? adapter = some a) (living : w'.livingAdapter? adapter = some b)
    (numbers : w''.adapters.length = w'.adapters.length)
    (published : ∀ j, w''.livingAdapter? j =
      if j = adapter then some (b.remember name made) else w'.livingAdapter? j)
    (gives : (b.remember name made).cached? name = some function) :
    Remembers i w [⟨.resolved adapter name (some function), before, after, t⟩] w'' := by
  by_cases same : i = adapter
  · subst same
    exact hooks.resolved_self asked living numbers ((published i).trans (if_pos rfl)) gives
  · have unasked : ∀ n f, Event.resolved (σ := σ) (V := V) adapter name (some function) ≠
        .resolved i n (some f) := by
      rintro n f equal
      cases equal
      exact same rfl
    have other := of_same (Nat.le_of_eq numbers.symm) ((published i).trans (if_neg same))
    exact (hooks.continued other).around unasked

end Resolution

end Remembers

/-- An adapter remembers through a course of events, and through every span of
it. -/
def Retains (i : Nat) (w : World σ V) (t : List (Span σ V)) (w' : World σ V) : Prop :=
  Remembers i w t w' ∧ Throughout (fun span => Remembers i span.before [span] span.after) t

namespace Retains

variable {i : Nat} {w w' w'' : World σ V} {t t' : List (Span σ V)}

theorem of_remembers (remembers : Remembers i w [] w') : Retains i w [] w' :=
  ⟨remembers, throughout_nil _⟩

theorem append (first : Retains i w t w') (second : Retains i w' t' w'') :
    Retains i w (t ++ t') w'' :=
  ⟨first.1.append second.1, throughout_append.mpr ⟨first.2, second.2⟩⟩

theorem preceded (step : Remembers i w [] w') (later : Retains i w' t w'') : Retains i w t w'' :=
  ⟨step.preceded later.1, later.2⟩

theorem continued (earlier : Retains i w t w') (step : Remembers i w' [] w'') :
    Retains i w t w'' :=
  ⟨earlier.1.continued step, earlier.2⟩

theorem around {event : Event σ V} (inside : Retains i w t w') (unasked : ¬ event.Gives) :
    Retains i w [⟨event, w, w', t⟩] w' := by
  have remembers : Remembers i w [⟨event, w, w', t⟩] w' :=
    Remembers.around inside.1 (Event.ne_resolved unasked i)
  rw [Retains, throughout_singleton]
  exact ⟨remembers, remembers, inside.2⟩

/-- A resolution is retained where the operation ends that it is. -/
theorem handOver {event : Event σ V} {adapter : Nat} {a : Adapter V}
    (resolved : Remembers i (w.enterAdapter adapter) [⟨event, w.enterAdapter adapter, w', t⟩] w')
    (inside : Throughout (fun span => Remembers i span.before [span] span.after) t)
    (found : w.adapter? adapter = some a) (function : Nat) (retain : Bool) :
    Retains i w [⟨event, w.enterAdapter adapter, w', t⟩] (w'.handOver adapter function retain) := by
  rw [Retains, throughout_singleton]
  exact ⟨resolved.handOver found function retain, resolved, inside⟩

end Retains

namespace Remembers

variable {i : Nat} {w w' : World σ V}

/-- An adapter may be dropped and given options, and remembers all the same. -/
theorem tended (grows : w.Grows i w')
    (operated : ∀ a, w.livingAdapter? i = some a → 0 < a.running →
      ∃ a', w'.livingAdapter? i = some a')
    (tends : ∀ a', w'.livingAdapter? i = some a' →
      ∃ a, w.livingAdapter? i = some a ∧ a'.running = a.running ∧ a'.methods = a.methods) :
    Remembers i w [] w' := by
  apply quiet grows operated
  · intro a a' living living'
    obtain ⟨b, found, running, _⟩ := tends a' living'
    cases living.symm.trans found
    exact running
  · intro a' living'
    obtain ⟨a, found, _, methods⟩ := tends a' living'
    rw [World.callables_of_livingAdapter? found, methods]

theorem addAdapter (w : World σ V) {a : Adapter V} (empty : a.methods = []) :
    Remembers i w [] (w.addAdapter a).2 := by
  have grows := (World.Step.wrapped w empty).grows i
  by_cases new : i = w.adapters.length
  · have none := World.livingAdapter?_eq_none (Nat.le_of_eq new.symm)
    have living : (w.addAdapter a).2.livingAdapter? i = some a :=
      (w.livingAdapter?_addAdapter a i).trans (if_pos new)
    apply quiet grows
    · intro b found
      cases none.symm.trans found
    · intro b _ found
      cases none.symm.trans found
    · intro a' found
      cases living.symm.trans found
      rw [empty, World.callables_of_none none]
  · exact of_same grows.numbered ((w.livingAdapter?_addAdapter a i).trans (if_neg new))

theorem dropAdapter (w : World σ V) (adapter : Nat) : Remembers i w [] (w.dropAdapter adapter) := by
  have grows := (w.leads_dropAdapter adapter).grows i
  have dropped := w.livingAdapter?_dropAdapter adapter i
  by_cases same : i = adapter
  · rw [if_pos same] at dropped
    apply tended grows
    · intro a living busy
      rw [dropped, living, Option.map_some]
      exact ⟨_, Option.filter_eq_some_iff.mpr ⟨rfl, by simp [Adapter.isUsed, busy]⟩⟩
    · intro a' living'
      rw [dropped] at living'
      obtain ⟨a, found, rfl⟩ := Option.map_eq_some_iff.mp (Option.filter_eq_some_iff.mp living').1
      exact ⟨a, found, rfl, rfl⟩
  · exact of_same grows.numbered (dropped.trans (if_neg same))

theorem setOptions (w : World σ V) (adapter : Nat) (options : Options) :
    Remembers i w [] (w.modifyAdapter adapter fun a => { a with options := options }) := by
  have grows := (w.leads_modifyAdapter adapter
    (f := fun a => { a with options := options }) fun _ => ⟨rfl, rfl⟩).grows i
  have modified := w.livingAdapter?_modifyAdapter adapter i
    (fun a => { a with options := options })
  by_cases same : i = adapter
  · rw [if_pos same] at modified
    apply tended grows
    · intro a living _
      rw [modified, living]
      exact ⟨_, rfl⟩
    · intro a' living'
      rw [modified] at living'
      obtain ⟨a, found, rfl⟩ := Option.map_eq_some_iff.mp living'
      exact ⟨a, found, rfl, rfl⟩
  · exact of_same grows.numbered (modified.trans (if_neg same))

end Remembers

/-- Through every course adapters remember what they had and what is resolved
meanwhile, and so they do through every span of it. -/
theorem Course.retains {direct} {w w' : World σ V} {t : List (Span σ V)}
    (course : Course direct w t w') (i : Nat) : Retains i w t w' := by
  induction course generalizing i with
  | still w => exact .of_remembers (.refl i w)
  | followed first second ih₁ ih₂ => exact (ih₁ i).append (ih₂ i)
  | performed r answer meanwhile ih => exact (ih i).around id
  | allocated | declared | made => exact .of_remembers (.of_adapters rfl)
  | wrapped found named idle empty => exact .of_remembers (.addAdapter _ empty)
  | dropped found => exact .of_remembers (.dropAdapter _ _)
  | configured w adapter options => exact .of_remembers (.setOptions w adapter options)
  | released w function =>
    exact .of_remembers (.of_adapters (w.adapters_release function))
  | refused refusal => exact (Retains.of_remembers (.refl i _)).around id
  | stored found => exact (Retains.of_remembers (.modifyObject _ _ _)).around id
  | read result found selected reads lent body ih =>
    exact .around (.preceded (.modifyObject _ _ _)
      (((ih i).around id).continued (.modifyObject _ _ _))) id
  | written result left found selected writes lent body ih =>
    exact .around (.preceded (.modifyObject _ _ _)
      (((ih i).around id).continued (.modifyObject _ _ _))) id
  | replied outcome found body ih => exact ((ih i).around id).around id
  | held found lent body ih =>
    exact .preceded (.modifyObject _ _ _) (((ih i).around id).continued (.modifyObject _ _ _))
  | used found body ih => exact ⟨(ih i).1.operation found, (ih i).2⟩
  | @recalled _ w w' _ function kept body ih =>
    exact .preceded (.of_adapters (w.adapters_acquireFunction function))
      ((ih i).continued (.of_adapters (w'.adapters_releaseFunction function)))
  | @missed w adapter name a found uncached other =>
    have unasked : ¬ (Event.resolved (σ := σ) (V := V) adapter name none).Gives := Bool.false_ne_true
    rw [Retains, throughout_singleton]
    exact ⟨Remembers.around (.refl i w) (Event.ne_resolved unasked i),
      Remembers.around (.refl i _) (Event.ne_resolved unasked i), throughout_nil _⟩
  | @hit w w' t adapter function name a retain found cached use ih =>
    have entered := World.livingAdapter?_enterAdapter_of_adapter? found
    have again : ({ a with running := a.running + 1 } : Adapter V).cached? name = some function :=
      cached
    have gives : (({ a with running := a.running + 1 } : Adapter V).remember name function).cached?
        name = some function := by
      rw [Adapter.remember_of_cached? again, again]
    have resolved : Remembers i (w.enterAdapter adapter)
        [⟨.resolved adapter name (some function), w.enterAdapter adapter,
          (w.enterAdapter adapter).acquireFunction function, []⟩]
        ((w.enterAdapter adapter).acquireFunction function) := by
      apply Remembers.resolved (.refl i _) ⟨_, entered⟩ entered (by simp) _ gives
      intro j
      rw [World.livingAdapter?_congr (World.adapters_acquireFunction _ function),
        Adapter.remember_of_cached? again]
      by_cases same : j = adapter
      · rw [if_pos same, same, entered]
      · rw [if_neg same]
    have ended := (ih i).continued (.of_adapters (w'.adapters_releaseFunction function))
    exact (Retains.handOver resolved (throughout_nil _) found function retain).append ended
  | @minted w w₁ w₂ t t' adapter name a made published retain found uncached isMethod hooks mint
      publish use ih₁ ih₂ =>
    have entered := World.livingAdapter?_enterAdapter_of_adapter? found
    have owned : Remembers i (w.enterAdapter adapter) []
        ((w.enterAdapter adapter).acquireHandle a.object.id) := .of_adapters rfl
    obtain ⟨b, living⟩ := (ih₁ adapter).1.operated _ entered (Nat.succ_pos _)
    have resolved : Remembers i (w.enterAdapter adapter)
        [⟨.resolved adapter name (some published.1), w.enterAdapter adapter, published.2, t⟩]
        published.2 := by
      have still : made.2.livingAdapter? adapter = some b := by
        rw [mint]
        exact living
      have gives : (b.remember name made.1).cached? name = some published.1 := by
        rw [publish]
        exact World.cached?_remember still
      apply Remembers.resolved (owned.preceded (ih₁ i).1) ⟨_, entered⟩ living
        (by simp [publish, mint]) _ gives
      intro j
      rw [publish, World.livingAdapter?_publish still, mint]
      rfl
    have ended := (ih₂ i).continued (.of_adapters (w₂.adapters_releaseFunction published.1))
    exact (Retains.handOver resolved (ih₁ i).2 found published.1 retain).append ended

/-! ## Who asks, and what is answered -/

/-- What a span says of itself: a request took its own course, and an adapter
that was asked for a name gave a callable that it had or of a method, or nothing
happened. -/
def Span.Lawful (span : Span σ V) : Prop :=
  match span.event with
  | .performed r _ => Course r.resolution? span.before span.inner span.after
  | .resolved i name function =>
    ∃ a, span.before.livingAdapter? i = some a ∧
      match function with
      | some function => a.cached? name = some function ∨
          ((span.before.surface a.object).members name).head? = some .method
      | none => ((span.before.surface a.object).members name).head? ≠ some .method ∧
          a.cached? name = none ∧ span.inner = [] ∧ span.after = span.before
  | _ => True

theorem Course.lawful {direct} {w w' : World σ V} {t : List (Span σ V)}
    (course : Course direct w t w') : Throughout Span.Lawful t := by
  intro span occurs
  cases course.arises span occurs with
  | performed r answer meanwhile => exact meanwhile
  | missed found uncached other =>
    have entered := World.livingAdapter?_enterAdapter_of_adapter? found
    exact ⟨_, entered, other, uncached, rfl, rfl⟩
  | hit found cached =>
    have entered := World.livingAdapter?_enterAdapter_of_adapter? found
    exact ⟨_, entered, Or.inl cached⟩
  | minted found isMethod =>
    have entered := World.livingAdapter?_enterAdapter_of_adapter? found
    exact ⟨_, entered, Or.inr isMethod⟩
  | refused | stored | called | read | written | replied | held => exact trivial

/-- Somewhere in a trace a request is performed that resolves through an
adapter. -/
def AsksFor (t : List (Span σ V)) (i : Nat) : Prop :=
  Somewhere (fun event => ∃ r answer name, event = .performed r answer ∧
    r.resolution? = some (i, name)) t

/-- Nobody gives a callable of an adapter unasked. -/
theorem Course.asked {direct} {w w' : World σ V} {t : List (Span σ V)}
    (course : Course direct w t w') {i : Nat} {name : String} {function : Nat}
    (resolves : Resolves t i name function) : direct = some (i, name) ∨ AsksFor t i := by
  induction course with
  | still | allocated | declared | made | wrapped | dropped | configured | released =>
    exact absurd resolves (not_somewhere_nil _)
  | followed first second ih₁ ih₂ =>
    rcases somewhere_append_iff.mp resolves with early | late
    · exact (ih₁ early).imp_right fun asks => somewhere_append_iff.mpr (Or.inl asks)
    · exact (ih₂ late).imp_right fun asks => somewhere_append_iff.mpr (Or.inr asks)
  | performed r answer meanwhile ih =>
    rcases somewhere_singleton_iff.mp resolves with event | deeper
    · cases event
    · right
      rcases ih deeper with asked | asks
      · exact somewhere_singleton_iff.mpr (Or.inl ⟨r, answer, name, rfl, asked⟩)
      · exact Somewhere.inside asks
  | refused | stored =>
    rcases somewhere_singleton_iff.mp resolves with event | deeper
    · cases event
    · exact absurd deeper (not_somewhere_nil _)
  | read _ _ _ _ _ _ ih | written _ _ _ _ _ _ _ ih | replied _ _ _ ih =>
    rcases somewhere_singleton_iff.mp resolves with event | deeper
    · cases event
    · rcases somewhere_singleton_iff.mp deeper with event | inBody
      · cases event
      · have asks := (ih inBody).resolve_left (by simp)
        exact Or.inr (Somewhere.inside (Somewhere.inside asks))
  | held found lent body ih =>
    rcases somewhere_singleton_iff.mp resolves with event | inBody
    · cases event
    · have asks := (ih inBody).resolve_left (by simp)
      exact Or.inr (Somewhere.inside asks)
  | used found body ih => exact Or.inr ((ih resolves).resolve_left (by simp))
  | recalled kept body ih => exact Or.inr ((ih resolves).resolve_left (by simp))
  | missed found uncached other =>
    rcases somewhere_singleton_iff.mp resolves with event | deeper
    · cases event
    · exact absurd deeper (not_somewhere_nil _)
  | hit found cached use ih =>
    rcases somewhere_cons_iff.mp resolves with event | deeper | inUse
    · cases event
      exact Or.inl rfl
    · exact absurd deeper (not_somewhere_nil _)
    · have asks := (ih inUse).resolve_left (by simp)
      exact Or.inr (somewhere_cons_iff.mpr (Or.inr (Or.inr asks)))
  | minted found uncached isMethod hooks mint publish use ih₁ ih₂ =>
    rcases somewhere_cons_iff.mp resolves with event | inHooks | inUse
    · cases event
      exact Or.inl rfl
    · have asks := (ih₁ inHooks).resolve_left (by simp)
      exact Or.inr (somewhere_cons_iff.mpr (Or.inr (Or.inl asks)))
    · have asks := (ih₂ inUse).resolve_left (by simp)
      exact Or.inr (somewhere_cons_iff.mpr (Or.inr (Or.inr asks)))

/-- A request that resolves nothing through an adapter, and in which nobody asks
for anything, leaves its callables as they are. -/
theorem methods_of_performed {span : Span σ V} {r : Request σ V} {answer : Answer σ V} {i : Nat}
    (performed : span.event = .performed r answer) (lawful : span.Lawful)
    (remembers : Remembers i span.before [span] span.after)
    (elsewhere : ∀ name, r.resolution? ≠ some (i, name)) (unasked : ¬ AsksFor span.inner i)
    {a' : Adapter V} (living : span.after.livingAdapter? i = some a') :
    a'.methods = span.before.callables i := by
  obtain ⟨new, methods, resolved⟩ := remembers.added a' living
  cases new with
  | nil => rw [methods, List.append_nil]
  | cons entry rest =>
    rcases entry with ⟨name, function⟩
    rw [Span.Lawful, performed] at lawful
    rcases somewhere_singleton_iff.mp (resolved name function List.mem_cons_self) with
      event | deeper
    · rw [performed] at event
      cases event
    · rcases lawful.asked deeper with asked | asks
      · exact absurd asked (elsewhere name)
      · exact absurd asks unasked

/-- Where adapters cache methods only, an adapter gives a callable exactly for a
name whose first member is a method, and otherwise nothing happens. -/
theorem resolved_iff_isMethod {span : Span σ V} {i : Nat} {name : String} {function : Option Nat}
    (resolved : span.event = .resolved i name function) (lawful : span.Lawful)
    (caches : span.before.CachesMethods) :
    ∃ a, span.before.livingAdapter? i = some a ∧
      (function.isSome ↔ ((span.before.surface a.object).members name).head? = some .method) ∧
      (function = none → span.inner = [] ∧ span.after = span.before) := by
  rw [Span.Lawful, resolved] at lawful
  obtain ⟨a, living, answer⟩ := lawful
  refine ⟨a, living, ?_⟩
  cases function with
  | none =>
    obtain ⟨other, _, nothing, same⟩ := answer
    exact ⟨iff_of_false Bool.false_ne_true other, fun _ => ⟨nothing, same⟩⟩
  | some function =>
    have isMethod : ((span.before.surface a.object).members name).head? = some .method := by
      rcases answer with cached | isMethod
      · exact caches.isMethod i a name function living (Adapter.mem_methods_of_cached? cached)
      · exact isMethod
    exact ⟨iff_of_true rfl isMethod, by simp⟩

/-- In every run, at every depth and in any nesting of resolutions, an adapter
caches each name once and for as long as it lives; all resolutions of a name give
one callable, which is what is cached in the end; names that do not begin with a
method give nothing and change nothing; and nothing but a resolution through the
adapter itself touches its callables. -/
theorem resolutions_share_one_callable (depth : Nat) (p : Routine σ V Unit) (i : Nat) :
    let run := performProgram (entryAt depth) p .empty
    (∀ u ∈ momentsOf run.trace ++ [run.world], ∀ a, u.livingAdapter? i = some a →
      (a.methods.map Prod.fst).Nodup) ∧
    InOrder (World.Grows i) .empty run.trace run.world ∧
    (∀ name f g, Resolves run.trace i name f → Resolves run.trace i name g → f = g) ∧
    (∀ a, run.world.livingAdapter? i = some a → ∀ name function,
      a.cached? name = some function ↔ Resolves run.trace i name function) ∧
    Throughout (fun span =>
      Remembers i span.before [span] span.after ∧
      (∀ name function, span.event = .resolved i name function →
        ∃ a, span.before.livingAdapter? i = some a ∧
          (function.isSome ↔
            ((span.before.surface a.object).members name).head? = some .method) ∧
          (function = none → span.inner = [] ∧ span.after = span.before)) ∧
      (∀ r answer, span.event = .performed r answer →
        (∀ name, r.resolution? ≠ some (i, name)) → ¬ AsksFor span.inner i →
        ∀ a', span.after.livingAdapter? i = some a' → a'.methods = span.before.callables i))
      run.trace := by
  intro run
  have course : Course none .empty run.trace run.world := performProgram_course depth p .empty
  have ordered := course.inOrder
  have caches : ∀ u ∈ momentsOf run.trace ++ [run.world], u.CachesMethods := by
    intro u moment
    exact (List.rel_of_pairwise_cons ordered moment).cachesMethods World.cachesMethods_empty
  have recalls_iff : ∀ name function,
      Recalls .empty run.trace i name function ↔ Resolves run.trace i name function :=
    fun name function => or_iff_right (by simp [World.callables, World.empty, World.livingAdapter?])
  obtain ⟨remembers, throughout⟩ := course.retains i
  refine ⟨fun u moment => (caches u moment).nodup i, ?_, ?_, ?_, ?_⟩
  · exact ordered.mono fun u v leads => leads.grows i
  · intro name f g resolvesF resolvesG
    exact remembers.unique name f g (Or.inr resolvesF) (Or.inr resolvesG)
  · intro a living name function
    rw [remembers.cached_iff a living, recalls_iff]
  · intro span occurs
    have lawful := course.lawful span occurs
    have before := caches span.before (List.mem_append_left _ occurs.before_mem)
    refine ⟨throughout span occurs, ?_, ?_⟩
    · intro name function resolved
      exact resolved_iff_isMethod resolved lawful before
    · intro r answer performed elsewhere unasked a' living
      exact methods_of_performed performed lawful (throughout span occurs) elsewhere unasked living

/-- A class with a method. -/
def callee : HostClass Nat (Request Nat Value) (Answer Nat Value) where
  name := "Callee"
  kind := .reference
  declarations := [.method "m" none fun state _ => .done (state, .ok .null)]
  indexer := none

/-- While a method is resolved, it is resolved through the same adapter. -/
def resolvingTwice : Routine Nat Value Unit :=
  .request (.defineClass callee) fun _ => .request (.makeInstance 0 0) fun _ =>
    .request (.adapt 0 .direct none none .bound) fun _ =>
      .request (.resolve 0 "m" false none
        (.request (.resolve 0 "m" false none (.done ()) (.done ())) fun _ => .done ())
        (.done ())) fun _ => .done ()

/-- The outer resolution gives what the inner one gave, though a second function
was made for it. -/
theorem outer_resolution_gives_inner :
    let run := performProgram (entryAt 1) resolvingTwice .empty
    ∃ (outer : Span Nat Value) (function : Nat), outer.Occurs run.trace ∧
      outer.event = .resolved 0 "m" (some function) ∧ Resolves outer.inner 0 "m" function ∧
      run.world.functions.length = 2 := by
  intro run
  obtain ⟨_, _, unique, _⟩ := resolutions_share_one_callable 1 resolvingTwice 0
  have outer := Span.Occurs.inside (List.mem_of_getElem? (l := run.trace) (i := 3) rfl)
    (.here (List.mem_of_getElem? (i := 0) rfl))
  have inner : Resolves run.trace 0 "m" _ := ⟨_, .inside (List.mem_of_getElem? (i := 3) rfl)
    (.inside (List.mem_of_getElem? (i := 0) rfl) (.inside (List.mem_of_getElem? (i := 0) rfl)
      (.here (List.mem_of_getElem? (i := 0) rfl)))), rfl⟩
  have same := unique "m" _ _ inner ⟨_, outer, rfl⟩
  refine ⟨_, _, outer, rfl, ?_, rfl⟩
  rw [← same]
  exact ⟨_, .inside (List.mem_of_getElem? (i := 0) rfl)
    (.here (List.mem_of_getElem? (i := 0) rfl)), rfl⟩

end Membrane
