import Membrane.Bridge.Act

/-!
# Spans at every depth of a trace

A trace is a list of trees. What is said of a whole run, however deeply it
re-enters the bridge, is said of every span that occurs in its trace.
-/

namespace Membrane

variable {σ V : Type}

namespace Span

/-- A span occurs in a trace, at the top or inside another span. -/
inductive Occurs (span : Span σ V) : List (Span σ V) → Prop where
  | here {trace : List (Span σ V)} (mem : span ∈ trace) : Occurs span trace
  | inside {trace : List (Span σ V)} {outer : Span σ V} (mem : outer ∈ trace)
      (deeper : Occurs span outer.inner) : Occurs span trace

theorem not_occurs_nil (span : Span σ V) : ¬ span.Occurs [] := by
  intro occurs
  cases occurs with
  | here mem => exact List.not_mem_nil mem
  | inside mem _ => exact List.not_mem_nil mem

/-- What occurs in a trace that begins with a span is that span, occurs inside
it, or occurs in the rest. -/
theorem occurs_cons_iff {span first : Span σ V} {rest : List (Span σ V)} :
    span.Occurs (first :: rest) ↔
      span = first ∨ span.Occurs first.inner ∨ span.Occurs rest := by
  constructor
  · intro occurs
    cases occurs with
    | here mem =>
      rcases List.mem_cons.mp mem with same | mem
      · exact Or.inl same
      · exact Or.inr (Or.inr (.here mem))
    | inside mem deeper =>
      rcases List.mem_cons.mp mem with rfl | mem
      · exact Or.inr (Or.inl deeper)
      · exact Or.inr (Or.inr (.inside mem deeper))
  · rintro (rfl | deeper | later)
    · exact .here List.mem_cons_self
    · exact .inside List.mem_cons_self deeper
    · cases later with
      | here mem => exact .here (List.mem_cons_of_mem first mem)
      | inside mem deeper => exact .inside (List.mem_cons_of_mem first mem) deeper

theorem occurs_append_iff {span : Span σ V} {t u : List (Span σ V)} :
    span.Occurs (t ++ u) ↔ span.Occurs t ∨ span.Occurs u := by
  induction t with
  | nil => simp [not_occurs_nil]
  | cons first rest ih => simp only [List.cons_append, occurs_cons_iff, ih, or_assoc]

end Span

/-- A property of every span of a trace, at every depth. -/
def Throughout (P : Span σ V → Prop) (trace : List (Span σ V)) : Prop :=
  ∀ span, span.Occurs trace → P span

@[simp] theorem throughout_nil (P : Span σ V → Prop) : Throughout P [] := by
  intro span occurs
  exact absurd occurs span.not_occurs_nil

@[simp] theorem throughout_cons {P : Span σ V → Prop} {first : Span σ V}
    {rest : List (Span σ V)} :
    Throughout P (first :: rest) ↔ P first ∧ Throughout P first.inner ∧ Throughout P rest := by
  simp only [Throughout, Span.occurs_cons_iff]
  constructor
  · intro all
    exact ⟨all first (Or.inl rfl), fun span deeper => all span (Or.inr (Or.inl deeper)),
      fun span later => all span (Or.inr (Or.inr later))⟩
  · rintro ⟨atFirst, atInner, atRest⟩ span (rfl | deeper | later)
    · exact atFirst
    · exact atInner span deeper
    · exact atRest span later

/-- What holds throughout one span holds of it and throughout what lies inside
it. -/
theorem throughout_singleton {P : Span σ V → Prop} {event : Event σ V} {w w' : World σ V}
    {inner : List (Span σ V)} :
    Throughout P [⟨event, w, w', inner⟩] ↔ P ⟨event, w, w', inner⟩ ∧ Throughout P inner := by
  rw [throughout_cons, and_iff_left (throughout_nil P)]

@[simp] theorem throughout_append {P : Span σ V → Prop} {t u : List (Span σ V)} :
    Throughout P (t ++ u) ↔ Throughout P t ∧ Throughout P u := by
  induction t with
  | nil => simp
  | cons first rest ih => simp only [List.cons_append, throughout_cons, ih, and_assoc]

/-- An event that happens somewhere in a trace, at some depth. -/
def Somewhere (P : Event σ V → Prop) (trace : List (Span σ V)) : Prop :=
  ∃ span : Span σ V, span.Occurs trace ∧ P span.event

theorem not_somewhere_nil (P : Event σ V → Prop) : ¬ Somewhere P [] := by
  rintro ⟨span, occurs, _⟩
  exact span.not_occurs_nil occurs

theorem somewhere_append_iff {P : Event σ V → Prop} {t u : List (Span σ V)} :
    Somewhere P (t ++ u) ↔ Somewhere P t ∨ Somewhere P u := by
  simp only [Somewhere, Span.occurs_append_iff, or_and_right, exists_or]

theorem somewhere_cons_iff {P : Event σ V → Prop} {first : Span σ V} {rest : List (Span σ V)} :
    Somewhere P (first :: rest) ↔ P first.event ∨ Somewhere P first.inner ∨ Somewhere P rest := by
  simp only [Somewhere, Span.occurs_cons_iff]
  constructor
  · rintro ⟨span, rfl | deeper | later, holds⟩
    · exact Or.inl holds
    · exact Or.inr (Or.inl ⟨span, deeper, holds⟩)
    · exact Or.inr (Or.inr ⟨span, later, holds⟩)
  · rintro (holds | ⟨span, deeper, holds⟩ | ⟨span, later, holds⟩)
    · exact ⟨first, Or.inl rfl, holds⟩
    · exact ⟨span, Or.inr (Or.inl deeper), holds⟩
    · exact ⟨span, Or.inr (Or.inr later), holds⟩

/-- What happens inside a span happens where the span does. -/
theorem Somewhere.inside {P : Event σ V → Prop} {event : Event σ V} {w w' : World σ V}
    {inner : List (Span σ V)} (deeper : Somewhere P inner) :
    Somewhere P [⟨event, w, w', inner⟩] :=
  somewhere_cons_iff.mpr (Or.inr (Or.inl deeper))

theorem somewhere_singleton_iff {P : Event σ V → Prop} {span : Span σ V} :
    Somewhere P [span] ↔ P span.event ∨ Somewhere P span.inner := by
  rw [somewhere_cons_iff, or_iff_left (not_somewhere_nil P)]

end Membrane
