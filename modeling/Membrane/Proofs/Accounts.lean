import Membrane.Proofs.Steps
import Membrane.Proofs.Functions

/-!
# Accounts of references and of handles

Every function object counts the references to it, and every object the handles
that own it. The references belong to the caches of the adapters, to the engine
that keeps functions, and to what is in hand; the handles belong to numbered
places, to adapters, to the bindings of function objects that are alive, and to
what is in hand. Accounts are in order when both counts are what these owners add
up to. Every operation of a world moves single entries between its owners, so
that accounts in order stay in order.
-/

namespace Membrane

variable {σ V : Type}

/-! ## Lists in which one entry changes -/

section Lists

variable {α : Type} {entries : List α} {i : Nat} {old : α}

/-- What hangs on the entries of a list is told apart by the one entry that is
replaced. -/
theorem count_flatMap_set (g : α → List Nat) (here : entries[i]? = some old) (new : α) (n : Nat) :
    ((entries.set i new).flatMap g).count n + (g old).count n =
      (entries.flatMap g).count n + (g new).count n := by
  induction entries generalizing i with
  | nil => simp at here
  | cons first rest ih =>
    cases i with
    | zero =>
      cases here
      simp only [List.set_cons_zero, List.flatMap_cons, List.count_append]
      omega
    | succ i =>
      have later := ih here
      simp only [List.set_cons_succ, List.flatMap_cons, List.count_append]
      omega

theorem countP_set (p : α → Bool) (here : entries[i]? = some old) (new : α) :
    (entries.set i new).countP p + (p old).toNat = entries.countP p + (p new).toNat := by
  induction entries generalizing i with
  | nil => simp at here
  | cons first rest ih =>
    cases i with
    | zero =>
      cases here
      simp only [List.set_cons_zero, List.countP_cons]
      cases p old <;> cases p new <;> simp
    | succ i =>
      have later := ih here
      simp only [List.set_cons_succ, List.countP_cons]
      omega

/-- Changing an entry replaces it. -/
theorem modify_eq_set (here : entries[i]? = some old) (f : α → α) :
    entries.modify i f = entries.set i (f old) := by
  rw [List.modify_eq_set_getElem?, here]
  rfl

/-- One entry more is counted once if it is the one looked for. -/
theorem count_cons_eq (first : Nat) (rest : List Nat) (i : Nat) :
    (first :: rest).count i = rest.count i + (first == i).toNat := by
  rw [List.count_cons]
  cases first == i <;> rfl

end Lists

/-! ## Owners -/

/-- What is in hand while an engine is at work: the callables in use, and the
objects of which a handle is on its way into a binding. -/
structure Hand where
  functions : List Nat
  handles : List Nat

namespace Hand

/-- Nothing is in hand. -/
def empty : Hand :=
  ⟨[], []⟩

/-- One callable more is in use. -/
def take (hand : Hand) (function : Nat) : Hand :=
  ⟨function :: hand.functions, hand.handles⟩

/-- One handle more is on its way. -/
def own (hand : Hand) (id : Nat) : Hand :=
  ⟨hand.functions, id :: hand.handles⟩

end Hand

namespace Adapter

/-- The function objects that an adapter has cached. -/
def functions (a : Adapter V) : List Nat :=
  a.methods.map Prod.snd

theorem mem_functions_of_cached? {a : Adapter V} {name : String} {function : Nat}
    (cached : a.cached? name = some function) : function ∈ a.functions :=
  List.mem_map_of_mem (mem_methods_of_cached? cached)

end Adapter

namespace World

/-- The number of references to a function object. -/
def references (w : World σ V) (function : Nat) : Nat :=
  match w.function? function with
  | some f => f.references
  | none => 0

/-- A function object is alive while something refers to it. -/
def IsLive (w : World σ V) (function : Nat) : Prop :=
  0 < w.references function

/-- What the adapters that were not torn down have cached. -/
def cached (w : World σ V) : List Nat :=
  w.adapters.flatMap fun place => place.elim [] Adapter.functions

/-- The number of numbered handles on an object. -/
def numberings (w : World σ V) (id : Nat) : Nat :=
  w.handles.countP fun place => place.any fun ref => ref.id == id

/-- The number of adapters over an object. -/
def wrappings (w : World σ V) (id : Nat) : Nat :=
  w.adapters.countP fun place => place.any fun a => a.object.id == id

/-- The number of function objects alive that are bound to an object. -/
def bindings (w : World σ V) (id : Nat) : Nat :=
  w.functions.countP fun f => 0 < f.references && f.binding.target.id == id

/-- Both counts are what the owners add up to. -/
structure Accounts (w : World σ V) (hand : Hand) : Prop where
  references : ∀ function, w.references function =
    w.cached.count function + w.retained.count function + hand.functions.count function
  handles : ∀ id, w.handleCount id =
    w.numberings id + w.wrappings id + w.bindings id + hand.handles.count id

theorem mem_cached_iff {w : World σ V} {function : Nat} :
    function ∈ w.cached ↔ ∃ i a, w.livingAdapter? i = some a ∧ function ∈ a.functions := by
  rw [cached, List.mem_flatMap]
  constructor
  · rintro ⟨place, mem, listed⟩
    obtain ⟨i, here⟩ := List.getElem?_of_mem mem
    cases place with
    | none => cases listed
    | some a => exact ⟨i, a, Option.join_eq_some_iff.mpr here, listed⟩
  · rintro ⟨i, a, living, listed⟩
    exact ⟨some a, List.mem_of_getElem? (Option.join_eq_some_iff.mp living), listed⟩

theorem accounts_empty : (empty : World σ V).Accounts .empty where
  references function := by
    have nothing : (empty : World σ V).references function = 0 := by
      rw [World.references, function?]
      split <;> simp_all [empty]
    rw [nothing]
    simp [cached, empty, Hand.empty]
  handles id := by simp [handleCount, numberings, wrappings, bindings, empty, Hand.empty]

section Congruence

variable {w w' : World σ V}

theorem references_congr (same : w'.functions = w.functions) (function : Nat) :
    w'.references function = w.references function := by
  rw [references, function?_congr same]
  rfl

theorem cached_congr (same : w'.adapters = w.adapters) : w'.cached = w.cached := by
  rw [cached, same]
  rfl

theorem numberings_congr (same : w'.handles = w.handles) (id : Nat) :
    w'.numberings id = w.numberings id := by
  rw [numberings, same]
  rfl

theorem wrappings_congr (same : w'.adapters = w.adapters) (id : Nat) :
    w'.wrappings id = w.wrappings id := by
  rw [wrappings, same]
  rfl

theorem handleCount_congr (same : w'.cells = w.cells) (id : Nat) :
    w'.handleCount id = w.handleCount id := by
  rw [handleCount, same]
  rfl

end Congruence

variable {w : World σ V} {hand : Hand}

/-! ## Handles -/

theorem lt_length_of_handleCount {id : Nat} (owned : 0 < w.handleCount id) :
    id < w.cells.length := by
  by_contra beyond
  rw [handleCount, List.getElem?_eq_none (Nat.le_of_not_lt beyond)] at owned
  cases owned

theorem handleCount_acquireHandle {id : Nat} (inside : id < w.cells.length) (i : Nat) :
    (w.acquireHandle id).handleCount i = w.handleCount i + (id == i).toNat := by
  simp only [handleCount, acquireHandle, List.getElem?_modify]
  by_cases same : id = i
  · subst same
    simp [List.getElem?_eq_getElem inside]
  · simp [same]

theorem handleCount_releaseHandle (w : World σ V) (id i : Nat) :
    (w.releaseHandle id).handleCount i = w.handleCount i - (id == i).toNat := by
  simp only [handleCount, releaseHandle, List.getElem?_modify]
  by_cases same : id = i
  · subst same
    rcases w.cells[id]? with _ | cell <;> simp
  · have other : (id == i) = false := beq_false_of_ne same
    simp [same, other]

theorem handleCount_modifyObject (w : World σ V) (id i : Nat)
    (f : HostObject σ (Request σ V) (Answer σ V) → HostObject σ (Request σ V) (Answer σ V)) :
    (w.modifyObject id f).handleCount i = w.handleCount i := by
  simp only [handleCount, modifyObject, List.getElem?_modify]
  by_cases same : id = i
  · subst same
    rcases w.cells[id]? with _ | cell <;> simp
  · simp [same]

/-- No handle owns an object that was just made. -/
theorem handleCount_allocate (w : World σ V)
    (object : HostObject σ (Request σ V) (Answer σ V)) (i : Nat) :
    (w.allocate object).2.handleCount i = w.handleCount i := by
  simp only [handleCount, allocate, getElem?_concat]
  by_cases new : i = w.cells.length
  · subst new
    simp
  · rw [if_neg new]

namespace Accounts

theorem modifyObject (accounts : w.Accounts hand) (id : Nat)
    (f : HostObject σ (Request σ V) (Answer σ V) → HostObject σ (Request σ V) (Answer σ V)) :
    (w.modifyObject id f).Accounts hand where
  references := accounts.references
  handles i := (w.handleCount_modifyObject id i f).trans (accounts.handles i)

theorem allocate (accounts : w.Accounts hand)
    (object : HostObject σ (Request σ V) (Answer σ V)) : (w.allocate object).2.Accounts hand where
  references := accounts.references
  handles i := (w.handleCount_allocate object i).trans (accounts.handles i)

theorem acquireHandle (accounts : w.Accounts hand) {id : Nat} (inside : id < w.cells.length) :
    (w.acquireHandle id).Accounts (hand.own id) where
  references := accounts.references
  handles i := by
    have before := accounts.handles i
    rw [handleCount_acquireHandle inside, Hand.own, count_cons_eq]
    simp only [numberings, wrappings, bindings] at before ⊢
    exact (congrArg (· + _) before).trans (Nat.add_assoc _ _ _)

theorem releaseHandle {id : Nat} (accounts : w.Accounts (hand.own id)) :
    (w.releaseHandle id).Accounts hand where
  references := accounts.references
  handles i := by
    have before := accounts.handles i
    rw [Hand.own, count_cons_eq, ← Nat.add_assoc] at before
    rw [handleCount_releaseHandle, before]
    exact Nat.add_sub_cancel _ _

/-- A handle in hand can be given a number. -/
theorem number {ref : ObjectRef} (accounts : w.Accounts (hand.own ref.id)) :
    { w with handles := w.handles ++ [some ref] }.Accounts hand where
  references := accounts.references
  handles i := by
    have before := accounts.handles i
    rw [Hand.own, count_cons_eq] at before
    have numbered : { w with handles := w.handles ++ [some ref] }.numberings i =
        w.numberings i + (ref.id == i).toNat := by
      rw [numberings, List.countP_append, List.countP_singleton]
      cases same : ref.id == i <;> simp [same, numberings]
    rw [numbered]
    simp only [handleCount, wrappings, bindings] at before ⊢
    omega

theorem addHandle (accounts : w.Accounts hand) {ref : ObjectRef}
    (inside : ref.id < w.cells.length) : (w.addHandle ref).2.Accounts hand :=
  (accounts.acquireHandle inside).number

theorem addObject (accounts : w.Accounts hand)
    (object : HostObject σ (Request σ V) (Answer σ V)) : (w.addObject object).2.Accounts hand := by
  apply (accounts.allocate object).addHandle
  simp [World.allocate]

end Accounts

/-! ## References to function objects -/

theorem exists_function?_of_isLive {function : Nat} (live : w.IsLive function) :
    ∃ f, w.function? function = some f ∧ 0 < f.references := by
  rw [IsLive, references] at live
  cases found : w.function? function with
  | none =>
    rw [found] at live
    cases live
  | some f =>
    rw [found] at live
    exact ⟨f, rfl, live⟩

theorem references_of_function? {function : Nat} {f : FunctionObject V}
    (found : w.function? function = some f) : w.references function = f.references := by
  rw [references, found]

/-- The count of one function object changes. -/
theorem references_modifyFunction {function : Nat} {f : FunctionObject V}
    (found : w.function? function = some f) (g : FunctionObject V → FunctionObject V) (i : Nat) :
    (w.modifyFunction function g).references i =
      if i = function then (g f).references else w.references i := by
  rw [references, function?_modifyFunction]
  by_cases same : i = function
  · subst same
    rw [if_pos rfl, if_pos rfl, found]
    rfl
  · rw [if_neg same, if_neg same]
    rfl

@[simp] theorem cells_modifyFunction (w : World σ V) (function : Nat)
    (g : FunctionObject V → FunctionObject V) : (w.modifyFunction function g).cells = w.cells := by
  by_cases zero : function = 0 <;> simp [modifyFunction, zero]

@[simp] theorem retained_modifyFunction (w : World σ V) (function : Nat)
    (g : FunctionObject V → FunctionObject V) :
    (w.modifyFunction function g).retained = w.retained := by
  by_cases zero : function = 0 <;> simp [modifyFunction, zero]

/-- Where one function object changes, the bindings are told apart by it. -/
theorem bindings_modifyFunction {function : Nat} {f : FunctionObject V}
    (found : w.function? function = some f) (g : FunctionObject V → FunctionObject V) (id : Nat) :
    let owns (f : FunctionObject V) := 0 < f.references && f.binding.target.id == id
    (w.modifyFunction function g).bindings id + (owns f).toNat =
      w.bindings id + (owns (g f)).toNat := by
  have positive := Nat.ne_of_gt (le_length_of_function? found).1
  have here : w.functions[function - 1]? = some f := by
    rw [function?, if_neg positive] at found
    exact found
  intro owns
  rw [bindings, bindings, modifyFunction, if_neg positive, modify_eq_set here]
  exact countP_set owns here (g f)

namespace Accounts

/-- What has an owner is alive. -/
theorem isLive_of_cached (accounts : w.Accounts hand) {i : Nat} {a : Adapter V} {function : Nat}
    (living : w.livingAdapter? i = some a) (cached : function ∈ a.functions) :
    w.IsLive function := by
  have owned := List.count_pos_iff.mpr (mem_cached_iff.mpr ⟨i, a, living, cached⟩)
  rw [IsLive, accounts.references]
  omega

theorem isLive_of_retained (accounts : w.Accounts hand) {function : Nat}
    (kept : function ∈ w.retained) : w.IsLive function := by
  have owned := List.count_pos_iff.mpr kept
  rw [IsLive, accounts.references]
  omega

theorem isLive_of_mem (accounts : w.Accounts hand) {function : Nat}
    (used : function ∈ hand.functions) : w.IsLive function := by
  have owned := List.count_pos_iff.mpr used
  rw [IsLive, accounts.references]
  omega

/-- Where one function object changes, the references are told apart by it. -/
theorem references_modify (accounts : w.Accounts hand) {function : Nat} {f : FunctionObject V}
    (found : w.function? function = some f) (g : FunctionObject V → FunctionObject V) (i : Nat) :
    let changed := w.modifyFunction function g
    changed.references i + (if i = function then f.references else 0) =
      changed.cached.count i + changed.retained.count i + hand.functions.count i +
        (if i = function then (g f).references else 0) := by
  have before := accounts.references i
  intro changed
  rw [references_modifyFunction found, cached_congr (adapters_modifyFunction ..),
    retained_modifyFunction]
  by_cases same : i = function
  · subst same
    rw [references_of_function? found] at before
    simp only [if_true]
    omega
  · simp only [if_neg same]
    omega

/-- A change of a function object moves no handle but that of its binding. -/
theorem handles_modify (accounts : w.Accounts hand) (function : Nat)
    (g : FunctionObject V → FunctionObject V) (id : Nat) :
    let changed := w.modifyFunction function g
    changed.handleCount id =
      changed.numberings id + changed.wrappings id + w.bindings id + hand.handles.count id := by
  intro changed
  rw [handleCount_congr (cells_modifyFunction ..), numberings_congr (handles_modifyFunction ..),
    wrappings_congr (adapters_modifyFunction ..)]
  exact accounts.handles id

theorem acquireFunction (accounts : w.Accounts hand) {function : Nat} (live : w.IsLive function) :
    (w.acquireFunction function).Accounts (hand.take function) := by
  obtain ⟨f, found, positive⟩ := exists_function?_of_isLive live
  let more (f : FunctionObject V) : FunctionObject V := { f with references := f.references + 1 }
  show (w.modifyFunction function more).Accounts (hand.take function)
  refine ⟨fun i => ?_, fun id => ?_⟩
  · have told := accounts.references_modify found more i
    rw [Hand.take, count_cons_eq]
    by_cases same : i = function
    · subst same
      simp only [more, if_true, beq_self_eq_true, Bool.toNat_true] at told ⊢
      omega
    · simp only [more, if_neg same, beq_false_of_ne (Ne.symm same), Bool.toNat_false] at told ⊢
      omega
  · have told : (w.modifyFunction function more).bindings id = w.bindings id := by
      simpa [more, positive] using bindings_modifyFunction found more id
    have counted := accounts.handles_modify function more id
    rw [told]
    exact counted

theorem releaseFunction {function : Nat} (accounts : w.Accounts (hand.take function)) :
    (w.releaseFunction function).Accounts hand := by
  obtain ⟨f, found, positive⟩ :=
    exists_function?_of_isLive (accounts.isLive_of_mem (List.mem_cons_self))
  let less (f : FunctionObject V) : FunctionObject V := { f with references := f.references - 1 }
  have references : ∀ i, (w.modifyFunction function less).references i =
      (w.modifyFunction function less).cached.count i +
        (w.modifyFunction function less).retained.count i + hand.functions.count i := by
    intro i
    have told := accounts.references_modify found less i
    rw [Hand.take, count_cons_eq] at told
    by_cases same : i = function
    · subst same
      simp only [less, if_true, beq_self_eq_true, Bool.toNat_true] at told ⊢
      omega
    · simp only [less, if_neg same, beq_false_of_ne (Ne.symm same), Bool.toNat_false] at told ⊢
      omega
  have counted := accounts.handles_modify function less
  by_cases last : f.references = 1
  · -- The last reference goes, and with it the binding and its handle.
    have gone : w.releaseFunction function =
        (w.modifyFunction function less).releaseHandle f.binding.target.id := by
      simp only [World.releaseFunction, found, last, if_true]
      rfl
    rw [gone]
    apply Accounts.releaseHandle
    refine ⟨references, fun id => ?_⟩
    have told : (w.modifyFunction function less).bindings id +
        (f.binding.target.id == id).toNat = w.bindings id := by
      simpa [less, last] using bindings_modifyFunction found less id
    rw [counted, Hand.own, count_cons_eq, ← told]
    simp only [Hand.take]
    omega
  · have remains : w.releaseFunction function = w.modifyFunction function less := by
      simp only [World.releaseFunction, found, last, if_false]
      rfl
    rw [remains]
    refine ⟨references, fun id => ?_⟩
    have more : 0 < f.references - 1 := by omega
    have told : (w.modifyFunction function less).bindings id = w.bindings id := by
      simpa [less, positive, more] using bindings_modifyFunction found less id
    rw [told]
    exact counted id

/-- A function object that is made takes the handle of its binding, and is in
use. -/
theorem mint (binding : Binding) (accounts : w.Accounts (hand.own binding.target.id))
    (trampoline : Trampoline) (codec : Codec V) :
    (w.mint binding trampoline codec).2.Accounts
      (hand.take (w.mint binding trampoline codec).1) where
  references i := by
    have before := accounts.references i
    rw [Hand.own] at before
    have made : (w.mint binding trampoline codec).2.references i =
        w.references i + (w.functions.length + 1 == i).toNat := by
      by_cases new : i = w.functions.length + 1
      · subst new
        have unknown : w.function? (w.functions.length + 1) = none := by simp [function?]
        rw [World.references, function?_mint, if_pos rfl, World.references, unknown,
          beq_self_eq_true]
        rfl
      · rw [World.references, function?_mint, if_neg new, beq_false_of_ne (Ne.symm new)]
        rfl
    rw [made, Hand.take, count_cons_eq]
    simp only [World.mint, cached] at before ⊢
    omega
  handles id := by
    have before := accounts.handles id
    rw [Hand.own, count_cons_eq] at before
    have bound : (w.mint binding trampoline codec).2.bindings id =
        w.bindings id + (binding.target.id == id).toNat := by
      rw [bindings, World.mint, List.countP_append, List.countP_singleton]
      simp only [Nat.zero_lt_one, decide_true, Bool.true_and, bindings]
      cases binding.target.id == id <;> rfl
    rw [bound, Hand.take]
    simp only [World.mint, handleCount, numberings, wrappings] at before ⊢
    omega

/-- A callable in hand can be kept by the engine. -/
theorem keep {function : Nat} (accounts : w.Accounts (hand.take function)) :
    { w with retained := function :: w.retained }.Accounts hand where
  references i := by
    have before := accounts.references i
    rw [Hand.take, count_cons_eq] at before
    rw [count_cons_eq]
    simp only [World.references, cached, function?] at before ⊢
    omega
  handles := accounts.handles

theorem retain {function : Nat} (accounts : w.Accounts hand) (live : w.IsLive function) :
    (w.retain function).Accounts hand := by
  rw [World.retain]
  split
  · exact accounts
  · have kept := (accounts.acquireFunction live).keep
    rw [World.acquireFunction, retained_modifyFunction] at kept
    exact kept

theorem release (accounts : w.Accounts hand) (function : Nat) :
    (w.release function).Accounts hand := by
  rw [World.release]
  by_cases kept : function ∈ w.retained
  · rw [if_pos kept]
    apply Accounts.releaseFunction
    refine ⟨fun i => ?_, accounts.handles⟩
    have before := accounts.references i
    have given : w.retained.count i =
        (w.retained.erase function).count i + (function == i).toNat := by
      rw [← count_cons_eq]
      exact (List.perm_cons_erase kept).count_eq i
    rw [Hand.take, count_cons_eq]
    simp only [World.references, cached, function?] at before ⊢
    omega
  · rw [if_neg kept]
    exact accounts

end Accounts

/-! ## Adapters -/

/-- Where no adapter lives there is nothing to change. -/
theorem modifyAdapter_of_none {i : Nat} (gone : w.livingAdapter? i = none)
    (f : Adapter V → Adapter V) : w.modifyAdapter i f = w := by
  have same : w.adapters.modify i (·.map f) = w.adapters := by
    rw [List.modify_eq_set_getElem?]
    cases place : w.adapters[i]? with
    | none => rfl
    | some entry =>
      rw [livingAdapter?, place] at gone
      cases (gone : entry = none)
      obtain ⟨inside, here⟩ := List.getElem?_eq_some_iff.mp place
      change w.adapters.set i none = w.adapters
      rw [← here, List.set_getElem_self]
  rw [modifyAdapter, same]

/-- The place of a living adapter is filled anew. -/
theorem modifyAdapter_eq {i : Nat} {a : Adapter V} (living : w.livingAdapter? i = some a)
    (f : Adapter V → Adapter V) :
    w.modifyAdapter i f = { w with adapters := w.adapters.set i (some (f a)) } := by
  rw [modifyAdapter, modify_eq_set (Option.join_eq_some_iff.mp living)]
  rfl

/-- Where the place of a living adapter is filled anew, the caches are told apart
by it. -/
theorem count_cached_set {i : Nat} {a : Adapter V} (living : w.livingAdapter? i = some a)
    (place : Option (Adapter V)) (function : Nat) :
    { w with adapters := w.adapters.set i place }.cached.count function +
        a.functions.count function =
      w.cached.count function + (place.elim [] Adapter.functions).count function :=
  count_flatMap_set (fun place : Option (Adapter V) => place.elim [] Adapter.functions)
    (Option.join_eq_some_iff.mp living) place function

theorem wrappings_set {i : Nat} {a : Adapter V} (living : w.livingAdapter? i = some a)
    (place : Option (Adapter V)) (id : Nat) :
    { w with adapters := w.adapters.set i place }.wrappings id + (a.object.id == id).toNat =
      w.wrappings id + (place.any fun a => a.object.id == id).toNat :=
  countP_set (fun place : Option (Adapter V) => place.any fun a : Adapter V => a.object.id == id)
    (Option.join_eq_some_iff.mp living) place

namespace Accounts

/-- An object that an adapter wraps is there. -/
theorem lt_length_of_livingAdapter? (accounts : w.Accounts hand) {i : Nat} {a : Adapter V}
    (living : w.livingAdapter? i = some a) : a.object.id < w.cells.length := by
  have counted : 0 < w.wrappings a.object.id := List.countP_pos_iff.mpr
    ⟨some a, List.mem_of_getElem? (Option.join_eq_some_iff.mp living), beq_self_eq_true _⟩
  apply lt_length_of_handleCount
  rw [accounts.handles]
  omega

/-- An object that a handle numbers is there. -/
theorem lt_length_of_handle? (accounts : w.Accounts hand) {handle : Nat} {ref : ObjectRef}
    (found : w.handle? handle = some ref) : ref.id < w.cells.length := by
  have counted : 0 < w.numberings ref.id := List.countP_pos_iff.mpr
    ⟨some ref, List.mem_of_getElem? (Option.join_eq_some_iff.mp found), beq_self_eq_true _⟩
  apply lt_length_of_handleCount
  rw [accounts.handles]
  omega

theorem addAdapter (accounts : w.Accounts hand) {a : Adapter V}
    (inside : a.object.id < w.cells.length) (empty : a.methods = []) :
    (w.addAdapter a).2.Accounts hand where
  references function := by
    have cached : (w.addAdapter a).2.cached = w.cached := by
      simp [World.cached, Adapter.functions, empty]
    rw [cached]
    exact accounts.references function
  handles id := by
    have before := accounts.handles id
    have wrapped : (w.addAdapter a).2.wrappings id =
        w.wrappings id + (a.object.id == id).toNat := by
      rw [wrappings, adapters_addAdapter, List.countP_append, List.countP_singleton,
        Option.any_some]
      cases a.object.id == id <;> rfl
    have acquired : (w.addAdapter a).2.handleCount id =
        w.handleCount id + (a.object.id == id).toNat := handleCount_acquireHandle inside id
    have numbered : (w.addAdapter a).2.numberings id = w.numberings id := rfl
    have bound : (w.addAdapter a).2.bindings id = w.bindings id := rfl
    omega

/-- Nothing moves when an adapter keeps its object and what it has cached. -/
theorem modifyAdapter (accounts : w.Accounts hand) (i : Nat) {f : Adapter V → Adapter V}
    (object : ∀ a, (f a).object = a.object) (methods : ∀ a, (f a).methods = a.methods) :
    (w.modifyAdapter i f).Accounts hand := by
  cases living : w.livingAdapter? i with
  | none =>
    rw [modifyAdapter_of_none living]
    exact accounts
  | some a =>
    rw [modifyAdapter_eq living]
    refine ⟨fun function => ?_, fun id => ?_⟩
    · have told := count_cached_set living (some (f a)) function
      rw [Option.elim_some, Adapter.functions, Adapter.functions, methods] at told
      rw [Nat.add_right_cancel told]
      exact accounts.references function
    · have told := wrappings_set living (some (f a)) id
      rw [Option.any_some, object] at told
      rw [Nat.add_right_cancel told]
      exact accounts.handles id

theorem foldl_releaseFunction (methods : List (String × Nat)) {w : World σ V}
    (accounts : w.Accounts ⟨methods.map Prod.snd ++ hand.functions, hand.handles⟩) :
    (methods.foldl (fun w (_, function) => w.releaseFunction function) w).Accounts hand := by
  induction methods generalizing w with
  | nil => exact accounts
  | cons entry rest ih =>
    have listed : w.Accounts
        (Hand.take ⟨rest.map Prod.snd ++ hand.functions, hand.handles⟩ entry.2) := accounts
    exact ih listed.releaseFunction

/-- An adapter that is torn down gives up what it has cached, and its handle. -/
theorem tearDown (accounts : w.Accounts hand) {i : Nat} {a : Adapter V}
    (living : w.livingAdapter? i = some a) : (w.tearDown i a).Accounts hand := by
  have given : { w with adapters := w.adapters.set i none }.Accounts
      ⟨a.functions ++ (hand.own a.object.id).functions, (hand.own a.object.id).handles⟩ := by
    refine ⟨fun function => ?_, fun id => ?_⟩
    · have told := count_cached_set living none function
      have before := accounts.references function
      simp only [Option.elim_none, List.count_nil] at told
      rw [List.count_append, Hand.own]
      simp only [World.references, function?] at before ⊢
      omega
    · have told := wrappings_set living none id
      have before := accounts.handles id
      simp only [Option.any_none, Bool.toNat_false] at told
      simp only [Hand.own, count_cons_eq]
      simp only [handleCount, numberings, bindings] at before ⊢
      omega
  exact (Accounts.foldl_releaseFunction a.methods given).releaseHandle

theorem settleAdapter (accounts : w.Accounts hand) (i : Nat) :
    (w.settleAdapter i).Accounts hand := by
  rw [World.settleAdapter]
  cases living : w.livingAdapter? i with
  | none => exact accounts
  | some a =>
    by_cases used : a.isUsed
    · simp only [used, if_true]
      exact accounts
    · simp only [used]
      exact accounts.tearDown living

theorem dropAdapter (accounts : w.Accounts hand) (i : Nat) : (w.dropAdapter i).Accounts hand :=
  (accounts.modifyAdapter (f := fun a => { a with named := false }) i (fun _ => rfl)
    fun _ => rfl).settleAdapter i

theorem enterAdapter (accounts : w.Accounts hand) (i : Nat) : (w.enterAdapter i).Accounts hand :=
  accounts.modifyAdapter i (fun _ => rfl) fun _ => rfl

theorem leaveAdapter (accounts : w.Accounts hand) (i : Nat) : (w.leaveAdapter i).Accounts hand :=
  (accounts.modifyAdapter (f := fun a => { a with running := a.running - 1 }) i (fun _ => rfl)
    fun _ => rfl).settleAdapter i

/-- A callable in hand goes into the cache of an adapter. -/
theorem cache {i function : Nat} {a : Adapter V} (accounts : w.Accounts (hand.take function))
    (living : w.livingAdapter? i = some a) (name : String) :
    (w.modifyAdapter i fun a => { a with methods := a.methods ++ [(name, function)] }).Accounts
      hand := by
  rw [modifyAdapter_eq living]
  refine ⟨fun n => ?_, fun id => ?_⟩
  · have told := count_cached_set living
      (some { a with methods := a.methods ++ [(name, function)] }) n
    have before := accounts.references n
    simp only [Hand.take, count_cons_eq] at before
    simp only [Option.elim_some, Adapter.functions, List.map_append, List.map_cons, List.map_nil,
      List.count_append, count_cons_eq, List.count_nil] at told
    simp only [World.references, function?] at before ⊢
    omega
  · have told := wrappings_set living
      (some { a with methods := a.methods ++ [(name, function)] }) id
    rw [Option.any_some] at told
    rw [Nat.add_right_cancel told]
    exact accounts.handles id

/-- A callable that was made is published, or let go for the one that was there
before; the one that comes of it is in use. -/
theorem publish {i function : Nat} {a : Adapter V} (accounts : w.Accounts (hand.take function))
    (living : w.livingAdapter? i = some a) (name : String) :
    (w.publish i name function).2.Accounts (hand.take (w.publish i name function).1) := by
  cases cached : a.cached? name with
  | some winner =>
    simp only [World.publish, living, cached]
    have released := accounts.releaseFunction
    apply released.acquireFunction
    apply released.isLive_of_cached (i := i) (a := a)
    · rw [livingAdapter?_congr (adapters_releaseFunction w function), living]
    · exact Adapter.mem_functions_of_cached? cached
  | none =>
    simp only [World.publish, living, cached]
    have kept := accounts.cache living name
    apply kept.acquireFunction
    apply kept.isLive_of_cached (i := i)
    · rw [livingAdapter?_modifyAdapter, if_pos rfl, living]
      rfl
    · simp [Adapter.functions]

end Accounts

end World

end Membrane
