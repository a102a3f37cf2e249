import Membrane.Proofs.Steps

/-!
# How many operations run on an adapter

An operation is counted on its adapter while it runs, and an adapter that was dropped
is torn down when the last one ends. A run ends as it began: as many operations run on
each adapter as before. Where none did, none is left over, and no adapter that was
dropped is still there.
-/

namespace Membrane

variable {σ V : Type}

namespace World

/-- As many operations run on each living adapter as is told, and what lives is kept by
its number or by one of them. -/
structure UsedBy (w : World σ V) (uses : Nat → Nat) : Prop where
  running : ∀ i a, w.livingAdapter? i = some a → a.running = uses i
  kept : ∀ i a, w.livingAdapter? i = some a → a.isUsed = true
  beyond : ∀ i, w.adapters.length ≤ i → uses i = 0

/-- No operation runs on any adapter, and no dropped adapter is still there. -/
def AtRest (w : World σ V) : Prop :=
  w.UsedBy fun _ => 0

theorem atRest_empty : (empty : World σ V).AtRest where
  running i a living := by cases living
  kept i a living := by cases living
  beyond _ _ := rfl

theorem AtRest.running {w : World σ V} (rest : w.AtRest) {i : Nat} {a : Adapter V}
    (living : w.livingAdapter? i = some a) : a.running = 0 :=
  UsedBy.running rest i a living

theorem AtRest.named {w : World σ V} (rest : w.AtRest) {i : Nat} {a : Adapter V}
    (living : w.livingAdapter? i = some a) : a.named = true := by
  have used := UsedBy.kept rest i a living
  rw [Adapter.isUsed, rest.running living] at used
  simpa using used

/-- One operation more runs on an adapter. -/
def oneMore (uses : Nat → Nat) (i : Nat) : Nat → Nat :=
  fun j => if j = i then uses j + 1 else uses j

namespace UsedBy

variable {w w' : World σ V} {uses : Nat → Nat} {i : Nat}

theorem congr (used : w.UsedBy uses) (same : w'.adapters = w.adapters) : w'.UsedBy uses where
  running i a living := used.running i a ((livingAdapter?_congr same i).symm.trans living)
  kept i a living := used.kept i a ((livingAdapter?_congr same i).symm.trans living)
  beyond i outside := used.beyond i (by rwa [same] at outside)

theorem addAdapter (used : w.UsedBy uses) {a : Adapter V} (named : a.named = true)
    (idle : a.running = 0) : (w.addAdapter a).2.UsedBy uses := by
  constructor
  case running =>
    intro i b living
    rcases new_or_living_of_addAdapter living with ⟨new, rfl⟩ | old
    · rw [idle, used.beyond i (Nat.le_of_eq new.symm)]
    · exact used.running i b old
  case kept =>
    intro i b living
    rcases new_or_living_of_addAdapter living with ⟨_, rfl⟩ | old
    · rw [Adapter.isUsed, named]
      rfl
    · exact used.kept i b old
  case beyond =>
    intro i outside
    apply used.beyond
    rw [adapters_addAdapter, List.length_append] at outside
    exact Nat.le_of_add_right_le outside

/-- A change of one adapter, after which it is kept. -/
theorem of_changed {uses' : Nat → Nat} (used : w.UsedBy uses)
    (length : w'.adapters.length = w.adapters.length)
    (here : ∀ a', w'.livingAdapter? i = some a' →
      ∃ a, w.livingAdapter? i = some a ∧ (a.running = uses i → a'.running = uses' i) ∧
        a'.isUsed = true)
    (elsewhere : ∀ j, j ≠ i → w'.livingAdapter? j = w.livingAdapter? j)
    (others : ∀ j, j ≠ i → uses' j = uses j) (inside : w.adapters.length ≤ i → uses' i = 0) :
    w'.UsedBy uses' where
  running j a' living := by
    by_cases same : j = i
    · subst same
      obtain ⟨a, before, counted, _⟩ := here a' living
      exact counted (used.running j a before)
    · rw [others j same]
      exact used.running j a' ((elsewhere j same).symm.trans living)
  kept j a' living := by
    by_cases same : j = i
    · subst same
      obtain ⟨_, _, _, kept⟩ := here a' living
      exact kept
    · exact used.kept j a' ((elsewhere j same).symm.trans living)
  beyond j outside := by
    rw [length] at outside
    by_cases same : j = i
    · subst same
      exact inside outside
    · rw [others j same]
      exact used.beyond j outside

theorem modifyAdapter (used : w.UsedBy uses) {f : Adapter V → Adapter V}
    (same : ∀ a, (f a).named = a.named ∧ (f a).running = a.running) :
    (w.modifyAdapter i f).UsedBy uses := by
  refine used.of_changed (i := i) (w.length_adapters_modifyAdapter i f) ?_ ?_ ?_ (used.beyond i)
  · intro a' living
    rw [livingAdapter?_modifyAdapter, if_pos rfl] at living
    obtain ⟨a, before, rfl⟩ := Option.map_eq_some_iff.mp living
    refine ⟨a, before, (same a).2.trans, ?_⟩
    rw [Adapter.isUsed, (same a).1, (same a).2]
    exact used.kept i a before
  · exact fun j other => by rw [livingAdapter?_modifyAdapter, if_neg other]
  · exact fun _ _ => rfl

theorem dropAdapter (used : w.UsedBy uses) (i : Nat) : (w.dropAdapter i).UsedBy uses := by
  refine used.of_changed (i := i) (w.length_adapters_dropAdapter i) ?_ ?_ ?_ (used.beyond i)
  · intro a' living
    rw [livingAdapter?_dropAdapter, if_pos rfl, Option.filter_eq_some_iff] at living
    obtain ⟨a, before, rfl⟩ := Option.map_eq_some_iff.mp living.1
    exact ⟨a, before, id, living.2⟩
  · exact fun j other => by rw [livingAdapter?_dropAdapter, if_neg other]
  · exact fun _ _ => rfl

theorem enterAdapter (used : w.UsedBy uses) {a : Adapter V}
    (living : w.livingAdapter? i = some a) : (w.enterAdapter i).UsedBy (oneMore uses i) := by
  refine used.of_changed (i := i) (w.length_adapters_enterAdapter i) ?_ ?_ ?_ ?_
  · intro a' after
    rw [livingAdapter?_enterAdapter, if_pos rfl] at after
    obtain ⟨a, before, rfl⟩ := Option.map_eq_some_iff.mp after
    refine ⟨a, before, fun counted => ?_, ?_⟩
    · rw [oneMore, if_pos rfl, ← counted]
    · simp [Adapter.isUsed]
  · exact fun j other => by rw [livingAdapter?_enterAdapter, if_neg other]
  · exact fun j other => if_neg other
  · exact fun outside => absurd (lt_length_of_livingAdapter? living) (Nat.not_lt_of_le outside)

theorem leaveAdapter (used : w.UsedBy (oneMore uses i)) : (w.leaveAdapter i).UsedBy uses := by
  refine used.of_changed (i := i) (w.length_adapters_leaveAdapter i) ?_ ?_ ?_ ?_
  · intro a' after
    rw [livingAdapter?_leaveAdapter, if_pos rfl, Option.filter_eq_some_iff] at after
    obtain ⟨a, before, rfl⟩ := Option.map_eq_some_iff.mp after.1
    refine ⟨a, before, fun counted => ?_, after.2⟩
    rw [oneMore, if_pos rfl] at counted
    exact Nat.sub_eq_of_eq_add counted
  · exact fun j other => by rw [livingAdapter?_leaveAdapter, if_neg other]
  · exact fun j other => (if_neg other).symm
  · intro outside
    have more := used.beyond i outside
    rw [oneMore, if_pos rfl] at more
    exact Nat.eq_zero_of_add_eq_zero_right more

theorem publish (used : w.UsedBy uses) (i : Nat) (name : String) (function : Nat) :
    (w.publish i name function).2.UsedBy uses := by
  cases found : w.livingAdapter? i with
  | none =>
    rw [publish_of_none found]
    exact used
  | some a =>
    refine used.of_changed (i := i) length_adapters_publish ?_ ?_ ?_ (used.beyond i)
    · intro a' living
      rw [livingAdapter?_publish found, if_pos rfl] at living
      cases living
      refine ⟨a, found, Adapter.running_remember.trans, ?_⟩
      rw [Adapter.isUsed_remember]
      exact used.kept i a found
    · exact fun j other => by rw [livingAdapter?_publish found, if_neg other]
    · exact fun _ _ => rfl

theorem handOver (used : w.UsedBy (oneMore uses i)) (function : Nat) (retain : Bool) :
    (w.handOver i function retain).UsedBy uses := by
  cases retain with
  | false => exact used.leaveAdapter
  | true => exact used.leaveAdapter.congr (adapters_retain _ function)

end UsedBy

end World

/-- After a course as many operations run on each adapter as before. -/
theorem Course.usedBy {direct} {w w' : World σ V} {t : List (Span σ V)}
    (course : Course direct w t w') {uses : Nat → Nat} (used : w.UsedBy uses) :
    w'.UsedBy uses := by
  induction course generalizing uses with
  | still w => exact used
  | followed first second ih₁ ih₂ => exact ih₂ (ih₁ used)
  | performed r answer meanwhile ih => exact ih used
  | allocated w template => exact used.congr rfl
  | declared w c => exact used.congr rfl
  | made idle => exact used.congr rfl
  | wrapped found named idle empty => exact used.addAdapter named idle
  | @dropped _ w i a found => exact used.dropAdapter i
  | configured w i options => exact used.modifyAdapter fun _ => ⟨rfl, rfl⟩
  | released w function => exact used.congr (w.adapters_release function)
  | refused refusal => exact used
  | stored found => exact used.congr rfl
  | read result found selected reads lent body ih => exact (ih (used.congr rfl)).congr rfl
  | written result left found selected writes lent body ih =>
    exact (ih (used.congr rfl)).congr rfl
  | replied outcome found body ih => exact ih used
  | held found lent body ih => exact (ih (used.congr rfl)).congr rfl
  | used found body ih =>
    exact (ih (used.enterAdapter (World.livingAdapter?_of_adapter? found).1)).leaveAdapter
  | @recalled _ w w' _ function kept body ih =>
    exact (ih (used.congr (w.adapters_acquireFunction function))).congr
      (w'.adapters_releaseFunction function)
  | missed found uncached other => exact used
  | @hit w w' _ i function name a retain found cached use ih =>
    have entered := used.enterAdapter (World.livingAdapter?_of_adapter? found).1
    have acquired := entered.congr (World.adapters_acquireFunction _ function)
    exact (ih (acquired.handOver function retain)).congr (w'.adapters_releaseFunction function)
  | @minted w w₁ w₂ t t' i name a made published retain found uncached isMethod hooks mint publish
      use ih₁ ih₂ =>
    have entered := used.enterAdapter (World.livingAdapter?_of_adapter? found).1
    have readied := ih₁ (entered.congr (World.adapters_acquireHandle _ a.object.id))
    have resolved : published.2.UsedBy (World.oneMore uses i) := by
      rw [publish]
      apply World.UsedBy.publish
      rw [mint]
      exact readied.congr rfl
    exact (ih₂ (resolved.handOver published.1 retain)).congr (w₂.adapters_releaseFunction _)

/-- A run from a world at rest ends at rest. -/
theorem atRest_performProgram (depth : Nat) (p : Routine σ V Unit) {w : World σ V}
    (rest : w.AtRest) : (performProgram (entryAt depth) p w).world.AtRest :=
  (performProgram_course depth p w).usedBy rest

end Membrane
