import Mathlib.Order.Defs.Unbundled
import Membrane.Proofs.Trace

/-!
# The moments of a run

The ends of all spans of a trace are the moments at which a run can be looked
at. They are listed in the order of time, so that what never goes back is said
of every two of them.
-/

namespace Membrane

variable {σ V : Type}

mutual

/-- The worlds at both ends of a span and of all that lies inside it, in their
order. -/
def Span.moments : Span σ V → List (World σ V)
  | ⟨_, before, after, inner⟩ => before :: (momentsOf inner ++ [after])
termination_by structural span => span

/-- The worlds at the ends of all spans of a trace, in their order. -/
def momentsOf : List (Span σ V) → List (World σ V)
  | [] => []
  | first :: rest => first.moments ++ momentsOf rest
termination_by structural trace => trace

end

theorem momentsOf_append (t u : List (Span σ V)) :
    momentsOf (t ++ u) = momentsOf t ++ momentsOf u := by
  induction t with
  | nil => rfl
  | cons first rest ih => simp only [List.cons_append, momentsOf, ih, List.append_assoc]

theorem moments_sublist_of_mem {span : Span σ V} {t : List (Span σ V)} (mem : span ∈ t) :
    span.moments.Sublist (momentsOf t) := by
  induction t with
  | nil => cases mem
  | cons first rest ih =>
    rw [momentsOf]
    rcases List.mem_cons.mp mem with rfl | later
    · exact List.sublist_append_left _ _
    · exact (ih later).trans (List.sublist_append_right _ _)

theorem Span.before_mem_moments (span : Span σ V) : span.before ∈ span.moments := by
  cases span
  exact List.mem_cons_self

theorem Span.after_mem_moments (span : Span σ V) : span.after ∈ span.moments := by
  cases span
  exact List.mem_cons_of_mem _ (List.mem_append_right _ List.mem_cons_self)

theorem Span.momentsOf_inner_sublist (span : Span σ V) :
    (momentsOf span.inner).Sublist span.moments := by
  cases span
  exact .cons _ (List.sublist_append_left _ _)

/-- The moments of a span at any depth are moments of the trace, in their order. -/
theorem Span.Occurs.moments_sublist {span : Span σ V} {t : List (Span σ V)}
    (occurs : span.Occurs t) : span.moments.Sublist (momentsOf t) := by
  induction occurs with
  | here mem => exact moments_sublist_of_mem mem
  | @inside t outer mem deeper ih =>
    exact (ih.trans outer.momentsOf_inner_sublist).trans (moments_sublist_of_mem mem)

/-- The worlds before spans at any depth are moments of a trace. -/
theorem Span.Occurs.before_mem {span : Span σ V} {t : List (Span σ V)} (occurs : span.Occurs t) :
    span.before ∈ momentsOf t :=
  occurs.moments_sublist.subset span.before_mem_moments

/-- So are the worlds after them. -/
theorem Span.Occurs.after_mem {span : Span σ V} {t : List (Span σ V)} (occurs : span.Occurs t) :
    span.after ∈ momentsOf t :=
  occurs.moments_sublist.subset span.after_mem_moments

/-- One moment of a run comes after another. -/
def Follows {α : Type} (run : Outcome σ V α) (u v : World σ V) : Prop :=
  List.Sublist [u, v] (momentsOf run.trace ++ [run.world])

/-- From a world to a world through a trace, every moment is related to all that
come after it. -/
def InOrder (R : World σ V → World σ V → Prop) (w : World σ V) (t : List (Span σ V))
    (w' : World σ V) : Prop :=
  (w :: (momentsOf t ++ [w'])).Pairwise R

theorem inOrder_iff {R : World σ V → World σ V → Prop} {w w' : World σ V} {t : List (Span σ V)} :
    InOrder R w t w' ↔
      (momentsOf t).Pairwise R ∧ (∀ u ∈ momentsOf t, R w u ∧ R u w') ∧ R w w' := by
  simp only [InOrder, List.pairwise_cons, List.pairwise_append, List.mem_append,
    List.mem_singleton]
  constructor
  · rintro ⟨fromStart, inside, _, toEnd⟩
    exact ⟨inside, fun u mem => ⟨fromStart u (Or.inl mem), toEnd u mem w' rfl⟩,
      fromStart w' (Or.inr rfl)⟩
  · rintro ⟨inside, between, ends⟩
    refine ⟨?_, inside, ⟨by simp, List.Pairwise.nil⟩, ?_⟩
    · rintro u (mem | rfl)
      · exact (between u mem).1
      · exact ends
    · rintro u mem v rfl
      exact (between u mem).2

theorem InOrder.ends {R : World σ V → World σ V → Prop} {w w' : World σ V} {t : List (Span σ V)}
    (ordered : InOrder R w t w') : R w w' :=
  (inOrder_iff.mp ordered).2.2

theorem InOrder.follows {α : Type} {R : World σ V → World σ V → Prop} {w u v : World σ V}
    {run : Outcome σ V α} (ordered : InOrder R w run.trace run.world) (later : Follows run u v) :
    R u v := by
  have inside := (List.pairwise_cons.mp ordered).2.sublist later
  exact List.pairwise_pair.mp inside

/-- The two ends of a span at any depth are related. -/
theorem InOrder.across {R : World σ V → World σ V → Prop} {w w' : World σ V}
    {t : List (Span σ V)} (ordered : InOrder R w t w') {span : Span σ V}
    (occurs : span.Occurs t) : R span.before span.after := by
  have inside := (inOrder_iff.mp ordered).1.sublist occurs.moments_sublist
  cases span with
  | mk event before after inner =>
    exact List.rel_of_pairwise_cons inside (List.mem_append_right _ (List.mem_singleton_self after))

section

variable {R : World σ V → World σ V → Prop} {w w' w'' : World σ V} {t t' : List (Span σ V)}
  [IsTrans (World σ V) R]

omit [IsTrans (World σ V) R] in
theorem inOrder_nil (step : R w w') : InOrder R w [] w' :=
  inOrder_iff.mpr ⟨List.Pairwise.nil, by simp [momentsOf], step⟩

theorem InOrder.append (first : InOrder R w t w')
    (second : InOrder R w' t' w'') : InOrder R w (t ++ t') w'' := by
  obtain ⟨inside₁, between₁, ends₁⟩ := inOrder_iff.mp first
  obtain ⟨inside₂, between₂, ends₂⟩ := inOrder_iff.mp second
  rw [inOrder_iff, momentsOf_append]
  refine ⟨List.pairwise_append.mpr ⟨inside₁, inside₂, ?_⟩, ?_, Trans.trans ends₁ ends₂⟩
  · intro u mem v mem'
    exact Trans.trans (between₁ u mem).2 (between₂ v mem').1
  · intro u mem
    rcases List.mem_append.mp mem with early | late
    · exact ⟨(between₁ u early).1, Trans.trans (between₁ u early).2 ends₂⟩
    · exact ⟨Trans.trans ends₁ (between₂ u late).1, (between₂ u late).2⟩

theorem InOrder.preceded (step : R w w') (later : InOrder R w' t w'') : InOrder R w t w'' :=
  (inOrder_nil step).append later

theorem InOrder.continued (earlier : InOrder R w t w') (step : R w' w'') : InOrder R w t w'' := by
  rw [← List.append_nil t]
  exact earlier.append (inOrder_nil step)

theorem InOrder.span {event : Event σ V} {before after : World σ V}
    {inner : List (Span σ V)} (began : R w before) (inside : InOrder R before inner after)
    (ended : R after w') : InOrder R w [⟨event, before, after, inner⟩] w' := by
  obtain ⟨pairs, between, ends⟩ := inOrder_iff.mp inside
  have moments : momentsOf [⟨event, before, after, inner⟩] =
      before :: (momentsOf inner ++ [after]) := by
    simp only [momentsOf, Span.moments, List.append_nil]
  rw [inOrder_iff, moments]
  refine ⟨inside, ?_, Trans.trans began (Trans.trans ends ended)⟩
  intro u mem
  rcases List.mem_cons.mp mem with rfl | mem
  · exact ⟨began, Trans.trans ends ended⟩
  · rcases List.mem_append.mp mem with deeper | last
    · exact ⟨Trans.trans began (between u deeper).1, Trans.trans (between u deeper).2 ended⟩
    · cases List.mem_singleton.mp last
      exact ⟨Trans.trans began ends, ended⟩

omit [IsTrans (World σ V) R] in
theorem InOrder.mono {S : World σ V → World σ V → Prop} (ordered : InOrder R w t w')
    (weaker : ∀ u v, R u v → S u v) : InOrder S w t w' :=
  List.Pairwise.imp (fun {u v} => weaker u v) ordered

end

end Membrane
