import Membrane.Proofs.Objects

/-!
# Leases

Who holds the state of an instance. A lease that was lent is the old one again
when it is given back, and what is no instance, or does not exist yet, is free.
-/

namespace Membrane

variable {σ V : Type}

namespace Lease

theorem read?_eq_some_iff {lease borrowed : Lease} :
    lease.read? = some borrowed ↔ ∃ n, lease = readers n ∧ borrowed = readers (n + 1) := by
  cases lease with
  | readers count => simp [read?, eq_comm]
  | writer => simp [read?]

theorem write?_eq_some_iff {lease borrowed : Lease} :
    lease.write? = some borrowed ↔ lease = free ∧ borrowed = writer := by
  cases lease with
  | readers count => cases count <;> simp [write?, free, eq_comm]
  | writer => simp [write?, free]

/-- The reader that was let in gives back what it took. -/
theorem endRead_of_read? {lease borrowed : Lease} (lent : lease.read? = some borrowed) :
    borrowed.endRead = lease := by
  obtain ⟨n, rfl, rfl⟩ := read?_eq_some_iff.mp lent
  rfl

/-- The writer that was let in gives back what it took. -/
theorem endWrite_of_write? {lease borrowed : Lease} (lent : lease.write? = some borrowed) :
    borrowed.endWrite = lease := by
  obtain ⟨rfl, rfl⟩ := write?_eq_some_iff.mp lent
  rfl

theorem write?_eq_none {lease : Lease} (used : lease ≠ .free) : lease.write? = none := by
  cases lent : lease.write? with
  | none => rfl
  | some borrowed => exact absurd (write?_eq_some_iff.mp lent).1 used

/-- A lease that let a reader in shares with one reader more, and is in use. -/
theorem shared_of_read? {lease borrowed : Lease} (lent : lease.read? = some borrowed) :
    lease.read?.isSome = true ∧ borrowed.read?.isSome = true ∧ borrowed ≠ .free := by
  obtain ⟨n, rfl, rfl⟩ := read?_eq_some_iff.mp lent
  exact ⟨rfl, rfl, by simp [free]⟩

end Lease

namespace HostObject

variable {Request Answer : Type}

/-- The lease of an instance; other objects lend nothing and are free. -/
def lease : HostObject σ Request Answer → Lease
  | ofClass _ _ lease => lease
  | array _ => .free
  | handwritten .. => .free

theorem lease_endRead (object : HostObject σ Request Answer) :
    object.endRead.lease = object.lease.endRead := by
  cases object <;> rfl

theorem lease_endWrite (state : σ) (object : HostObject σ Request Answer) :
    (object.endWrite state).lease = object.lease.endWrite := by
  cases object <;> rfl

theorem lease_ofTemplate (template : Template) :
    (ofTemplate template : HostObject σ Request Answer).lease = .free := by
  cases template <;> rfl

end HostObject

namespace World

/-- The lease of the object with an identity; where there is no instance it is
free. -/
def leaseOf (w : World σ V) (o : Nat) : Lease :=
  match w.object? o with
  | some object => object.lease
  | none => .free

theorem leaseOf_congr {w w' : World σ V} {o : Nat} (same : w'.object? o = w.object? o) :
    w'.leaseOf o = w.leaseOf o := by
  rw [leaseOf, same]
  rfl

theorem leaseOf_of_object? {w : World σ V} {o : Nat}
    {object : HostObject σ (Request σ V) (Answer σ V)} (found : w.object? o = some object) :
    w.leaseOf o = object.lease := by
  rw [leaseOf, found]

theorem object?_withLease {w : World σ V} {o : Nat}
    {c : HostClass σ (Request σ V) (Answer σ V)} {state : σ} {lease : Lease}
    (found : w.object? o = some (.ofClass c state lease)) (borrowed : Lease) :
    (w.modifyObject o (.withLease borrowed)).object? o = some (.ofClass c state borrowed) := by
  rw [object?_modifyObject, if_pos rfl, found]
  rfl

/-- Only an instance is ever in use. -/
theorem exists_ofClass_of_leaseOf_ne_free {w : World σ V} {o : Nat}
    (used : w.leaseOf o ≠ .free) :
    ∃ c state, w.object? o = some (.ofClass c state (w.leaseOf o)) := by
  cases found : w.object? o with
  | none => exact absurd (by rw [leaseOf, found]) used
  | some object =>
    rw [leaseOf_of_object? found] at used ⊢
    cases object with
    | ofClass c state lease => exact ⟨c, state, rfl⟩
    | array a => exact absurd rfl used
    | handwritten surface replies => exact absurd rfl used

/-- A change of one object that changes leases in one way changes its lease in
that way. -/
theorem leaseOf_modifyObject_self {w : World σ V} {o : Nat} {g : Lease → Lease}
    {f : HostObject σ (Request σ V) (Answer σ V) → HostObject σ (Request σ V) (Answer σ V)}
    (onObjects : ∀ object, (f object).lease = g object.lease) (onFree : g .free = .free) :
    (w.modifyObject o f).leaseOf o = g (w.leaseOf o) := by
  rw [leaseOf, leaseOf, object?_modifyObject, if_pos rfl]
  cases w.object? o with
  | none => exact onFree.symm
  | some object => exact onObjects object

theorem leaseOf_modifyObject_ne {w : World σ V} {o i : Nat} (other : i ≠ o)
    (f : HostObject σ (Request σ V) (Answer σ V) → HostObject σ (Request σ V) (Answer σ V)) :
    (w.modifyObject o f).leaseOf i = w.leaseOf i :=
  leaseOf_congr (object?_modifyObject_ne other f)

/-- A new object that nobody uses changes no lease. -/
theorem leaseOf_allocate {w : World σ V} {object : HostObject σ (Request σ V) (Answer σ V)}
    (idle : object.lease = .free) (o : Nat) :
    (w.allocate object).2.leaseOf o = w.leaseOf o := by
  by_cases new : o = w.cells.length
  · subst new
    rw [leaseOf, leaseOf, object?_allocate_eq, if_pos rfl, object?_eq_none (Nat.le_refl _)]
    exact idle
  · exact leaseOf_congr (by rw [object?_allocate_eq, if_neg new])

end World

end Membrane
