import Membrane.Session.Body

/-!
# Slots of an instance

The laws of storing values in named slots: a slot holds what is stored in it, and of
two values stored in one slot only the later one counts (`InstanceState.slot_store`,
`InstanceState.store_store`).
-/

namespace Membrane

namespace InstanceState

variable {s : InstanceState} {name : String} {v : Value} {slots : List (String × Value)}

/-- A slot after the one of a name was given another value. -/
def replacing (name : String) (v : Value) (slot : String × Value) : String × Value :=
  if slot.1 = name then (slot.1, v) else slot

theorem store_of_mem (has : name ∈ s.slots.map Prod.fst) (v : Value) :
    s.store name v = { s with slots := s.slots.map (replacing name v) } := by
  have listed : s.slots.any (·.1 = name) = true := by simpa using has
  rw [store, if_pos listed]
  rfl

theorem store_of_not_mem (new : name ∉ s.slots.map Prod.fst) (v : Value) :
    s.store name v = { s with slots := s.slots ++ [(name, v)] } := by
  have unlisted : ¬ s.slots.any (·.1 = name) = true := by simpa using new
  rw [store, if_neg unlisted]

theorem lookup_map_replacing (has : name ∈ slots.map Prod.fst) (v : Value) :
    (slots.map (replacing name v)).lookup name = some v := by
  induction slots with
  | nil => cases has
  | cons first rest ih =>
    rcases first with ⟨key, old⟩
    by_cases same : key = name
    · simp [replacing, same]
    · rcases List.mem_cons.mp has with here | there
      · exact absurd here.symm same
      · have differs : (name == key) = false := beq_false_of_ne (Ne.symm same)
        simp only [List.map_cons, replacing, same, if_false, List.lookup_cons, differs]
        exact ih there

theorem lookup_append_of_not_mem (new : name ∉ slots.map Prod.fst) (v : Value) :
    (slots ++ [(name, v)]).lookup name = some v := by
  induction slots with
  | nil => simp
  | cons first rest ih =>
    rcases first with ⟨key, old⟩
    rw [List.map_cons, List.mem_cons, not_or] at new
    have differs : (name == key) = false := beq_false_of_ne new.1
    simp only [List.cons_append, List.lookup_cons, differs]
    exact ih new.2

/-- A slot holds what is stored in it. -/
theorem slot_store (s : InstanceState) (name : String) (v : Value) :
    (s.store name v).slot name = v := by
  by_cases has : name ∈ s.slots.map Prod.fst
  · rw [store_of_mem has, slot, lookup_map_replacing has, Option.getD_some]
  · rw [store_of_not_mem has, slot, lookup_append_of_not_mem has, Option.getD_some]

theorem replacing_replacing (name : String) (u v : Value) :
    replacing name v ∘ replacing name u = replacing name v := by
  funext slot
  by_cases same : slot.1 = name
  · simp [replacing, same]
  · simp [replacing, same]

theorem map_fst_replacing : (slots.map (replacing name v)).map Prod.fst = slots.map Prod.fst := by
  rw [List.map_map]
  apply List.map_congr_left
  intro slot _
  by_cases same : slot.1 = name
  · simp [replacing, same]
  · simp [replacing, same]

theorem map_replacing_of_not_mem (new : name ∉ slots.map Prod.fst) (v : Value) :
    slots.map (replacing name v) = slots := by
  have unmoved : ∀ slot ∈ slots, replacing name v slot = id slot := by
    intro slot mem
    have differs : slot.1 ≠ name := by
      rintro rfl
      exact new (List.mem_map_of_mem mem)
    rw [replacing, if_neg differs, id]
  calc
    slots.map (replacing name v) = slots.map id := List.map_congr_left unmoved
    _ = slots := List.map_id slots

/-- Only what is stored last in a slot counts. -/
theorem store_store (s : InstanceState) (name : String) (u v : Value) :
    (s.store name u).store name v = s.store name v := by
  by_cases has : name ∈ s.slots.map Prod.fst
  · have kept : name ∈ (s.slots.map (replacing name u)).map Prod.fst := by
      rwa [map_fst_replacing]
    rw [store_of_mem has, store_of_mem has, store_of_mem kept, List.map_map, replacing_replacing]
  · have added : name ∈ (s.slots ++ [(name, u)]).map Prod.fst := by simp
    rw [store_of_not_mem has, store_of_not_mem has, store_of_mem added, List.map_append,
      map_replacing_of_not_mem has]
    simp [replacing]

end InstanceState

end Membrane
