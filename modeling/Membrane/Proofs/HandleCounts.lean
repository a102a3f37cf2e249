import Membrane.Bridge.Handles
import Membrane.Proofs.Changes
import Membrane.Proofs.Custody

/-!
# Handles are neither lost nor made up

The handles of an object are owned by numbered places, by adapters and by the
bindings of function objects. Whatever is cloned, dropped, wrapped, resolved and
released, in any order, its count is the number of these owners. Numbers are never
given out twice, so that an owner that comes from another through any chain of
clones and adapters has a handle of the same object.

Values that refer to an object are no owners here. Of moves that put such a value
anywhere, into a state or an array, the count does not tell how many references
there are.
-/

namespace Membrane

variable {σ V : Type}

/-- One move of whoever uses handles and adapters. Wrapping an object, resolving
methods and letting go of callables are requests. So is everything else that can be
asked; what a request puts into values owns nothing and is not counted. -/
inductive Move (σ V : Type) where
  | clone (handle : Nat)
  | drop (handle : Nat)
  /-- A new handle from the one that an adapter has. -/
  | ofAdapter (adapter : Nat)
  | dropAdapter (adapter : Nat)
  /-- A request, into which members re-enter down to a depth. -/
  | perform (depth : Nat) (r : Request σ V)

/-- What may have a handle that someone can get at. -/
inductive Owner where
  | handle (handle : Nat)
  | adapter (adapter : Nat)

namespace World

/-- The world after a move. A move with a handle or an adapter that is not there
does nothing. -/
def move (w : World σ V) : Move σ V → World σ V
  | .clone handle =>
    match w.handle? handle with
    | some ref => (w.addHandle ref).2
    | none => w
  | .drop handle => w.dropHandle handle
  | .ofAdapter adapter =>
    match w.adapter? adapter with
    | some a => (w.addHandle a.object).2
    | none => w
  | .dropAdapter adapter => w.dropAdapter adapter
  | .perform depth r => (Membrane.perform (entryAt depth) r w).world

/-- The world after moves in their order. -/
def moves (w : World σ V) (ms : List (Move σ V)) : World σ V :=
  ms.foldl move w

theorem moves_concat (w : World σ V) (ms : List (Move σ V)) (m : Move σ V) :
    w.moves (ms ++ [m]) = (w.moves ms).move m := by
  rw [moves, List.foldl_append]
  rfl

/-- The object of which an owner has a handle, while the owner is there. -/
def denotes? (w : World σ V) : Owner → Option ObjectRef
  | .handle handle => w.handle? handle
  | .adapter adapter => (w.livingAdapter? adapter).map (·.object)

/-- The number of an owner was given out. -/
def Numbers (w : World σ V) : Owner → Prop
  | .handle handle => handle < w.handles.length
  | .adapter adapter => adapter < w.adapters.length

end World

/-- An owner comes from an origin by a chain of clones and adapters, in a history
that begins with nothing. Any handle may be an origin; time may pass before and
after each link. -/
inductive Traced : List (Move σ V) → Owner → ObjectRef → Prop where
  | origin {ms : List (Move σ V)} {handle : Nat} {ref : ObjectRef}
      (found : (World.empty.moves ms).handle? handle = some ref) :
      Traced ms (.handle handle) ref
  | later {ms : List (Move σ V)} {owner : Owner} {ref : ObjectRef}
      (traced : Traced ms owner ref) (m : Move σ V) : Traced (ms ++ [m]) owner ref
  | cloned {ms : List (Move σ V)} {handle : Nat} {ref : ObjectRef}
      (traced : Traced ms (.handle handle) ref)
      (there : ((World.empty.moves ms).handle? handle).isSome) :
      Traced (ms ++ [.clone handle]) (.handle (World.empty.moves ms).handles.length) ref
  | adapted {ms : List (Move σ V)} {handle adapter depth : Nat} {ref : ObjectRef}
      {codec : Codec V} {text : Option String} {reject : Option Bool} {trampoline : Trampoline}
      (traced : Traced ms (.handle handle) ref)
      (made : (perform (entryAt depth) (.adapt handle codec text reject trampoline)
        (World.empty.moves ms)).value = .adapted adapter) :
      Traced (ms ++ [.perform depth (.adapt handle codec text reject trampoline)])
        (.adapter adapter) ref
  | ofAdapter {ms : List (Move σ V)} {adapter : Nat} {ref : ObjectRef}
      (traced : Traced ms (.adapter adapter) ref)
      (there : ((World.empty.moves ms).adapter? adapter).isSome) :
      Traced (ms ++ [.ofAdapter adapter]) (.handle (World.empty.moves ms).handles.length) ref

namespace World

variable {w w' w'' : World σ V} {hand : Hand}

/-! ## The accounts of moves -/

/-- A dropped handle is no owner any more. -/
theorem Accounts.dropHandle (accounts : w.Accounts hand) (handle : Nat) :
    (w.dropHandle handle).Accounts hand := by
  rw [World.dropHandle]
  cases found : w.handle? handle with
  | none => exact accounts
  | some ref =>
    have place : w.handles[handle]? = some (some ref) := Option.join_eq_some_iff.mp found
    have given : { w with handles := w.handles.set handle none }.Accounts (hand.own ref.id) := by
      refine ⟨accounts.references, fun id => ?_⟩
      have told := countP_set (fun place : Option ObjectRef => place.any fun ref => ref.id == id)
        place none
      have before := accounts.handles id
      rw [Option.any_some, Option.any_none, Bool.toNat_false] at told
      rw [Hand.own, count_cons_eq]
      simp only [handleCount, numberings, wrappings, bindings] at before told ⊢
      omega
    exact given.releaseHandle

theorem Accounts.move (accounts : w.Accounts hand) (m : Move σ V) : (w.move m).Accounts hand := by
  cases m with
  | clone handle =>
    rw [World.move]
    cases found : w.handle? handle with
    | none => exact accounts
    | some ref => exact accounts.addHandle (accounts.lt_length_of_handle? found)
  | drop handle => exact accounts.dropHandle handle
  | ofAdapter adapter =>
    rw [World.move]
    cases found : w.adapter? adapter with
    | none => exact accounts
    | some a =>
      have living := (livingAdapter?_of_adapter? found).1
      exact accounts.addHandle (accounts.lt_length_of_livingAdapter? living)
  | dropAdapter adapter => exact accounts.dropAdapter adapter
  | perform depth r => exact (perform_entryAt_keeps depth r hand w accounts).2.2

theorem Accounts.moves (accounts : w.Accounts hand) (ms : List (Move σ V)) :
    (w.moves ms).Accounts hand := by
  induction ms generalizing w with
  | nil => exact accounts
  | cons m ms ih => exact ih (accounts.move m)

theorem numberings_eq_zero_iff {o : Nat} :
    w.numberings o = 0 ↔ ∀ handle ref, w.handle? handle = some ref → ref.id ≠ o := by
  rw [numberings, List.countP_eq_zero]
  constructor
  · intro none handle ref found same
    have place := List.mem_of_getElem? (Option.join_eq_some_iff.mp found)
    exact none _ place (by simp [same])
  · intro other place mem counted
    obtain ⟨ref, rfl, same⟩ := (Option.any_eq_true ..).mp counted
    obtain ⟨handle, here⟩ := List.getElem?_of_mem mem
    exact other handle ref (Option.join_eq_some_iff.mpr here) (beq_iff_eq.mp same)

theorem wrappings_eq_zero_iff {o : Nat} :
    w.wrappings o = 0 ↔ ∀ i a, w.livingAdapter? i = some a → a.object.id ≠ o := by
  rw [wrappings, List.countP_eq_zero]
  constructor
  · intro none i a living same
    have place := List.mem_of_getElem? (Option.join_eq_some_iff.mp living)
    exact none _ place (by simp [same])
  · intro other place mem counted
    obtain ⟨a, rfl, same⟩ := (Option.any_eq_true ..).mp counted
    obtain ⟨i, here⟩ := List.getElem?_of_mem mem
    exact other i a (Option.join_eq_some_iff.mpr here) (beq_iff_eq.mp same)

theorem bindings_eq_zero_iff {o : Nat} :
    w.bindings o = 0 ↔ ∀ function f, w.function? function = some f → 0 < f.references →
      f.binding.target.id ≠ o := by
  rw [bindings, List.countP_eq_zero]
  constructor
  · intro none function f found live same
    have positive := Nat.ne_of_gt (le_length_of_function? found).1
    rw [function?, if_neg positive] at found
    exact none f (List.mem_of_getElem? found) (by simp [live, same])
  · intro other f mem counted
    obtain ⟨live, same⟩ := (Bool.and_eq_true_iff ..).mp counted
    obtain ⟨i, here⟩ := List.getElem?_of_mem mem
    exact other (i + 1) f here (of_decide_eq_true live) (beq_iff_eq.mp same)

/-- Without a handle in hand, an object without handles has no owner left. -/
theorem Accounts.handleCount_eq_zero_iff (accounts : w.Accounts .empty) (o : Nat) :
    w.handleCount o = 0 ↔
      (∀ handle ref, w.handle? handle = some ref → ref.id ≠ o) ∧
      (∀ i a, w.livingAdapter? i = some a → a.object.id ≠ o) ∧
      ∀ function f, w.function? function = some f → 0 < f.references →
        f.binding.target.id ≠ o := by
  rw [accounts.handles, ← numberings_eq_zero_iff, ← wrappings_eq_zero_iff,
    ← bindings_eq_zero_iff]
  simp only [Hand.empty, List.count_nil, Nat.add_zero, Nat.add_eq_zero_iff, and_assoc]

/-! ## Owners keep what they have -/

/-- Numbers of handles stay given out, and what is there under an old number is
what was there. -/
structure KeepsHandles (w w' : World σ V) : Prop where
  numbered : w.handles.length ≤ w'.handles.length
  denoted : ∀ handle ref, w'.handle? handle = some ref →
    w.handles.length ≤ handle ∨ w.handle? handle = some ref

theorem KeepsHandles.of_handles (same : w'.handles = w.handles) : w.KeepsHandles w' where
  numbered := Nat.le_of_eq (congrArg List.length same.symm)
  denoted handle ref found := by
    rw [handle?, same] at found
    exact Or.inr found

theorem KeepsHandles.trans (first : w.KeepsHandles w') (second : w'.KeepsHandles w'') :
    w.KeepsHandles w'' where
  numbered := Nat.le_trans first.numbered second.numbered
  denoted handle ref found := by
    rcases second.denoted handle ref found with new | old
    · exact Or.inl (Nat.le_trans first.numbered new)
    · exact first.denoted handle ref old

theorem handle?_addHandle (w : World σ V) (ref : ObjectRef) (handle : Nat) :
    (w.addHandle ref).2.handle? handle =
      if handle = w.handles.length then some ref else w.handle? handle := by
  have places : (w.addHandle ref).2.handles = w.handles ++ [some ref] := rfl
  rw [handle?, places, getElem?_concat]
  split <;> rfl

theorem KeepsHandles.addHandle (w : World σ V) (ref : ObjectRef) :
    w.KeepsHandles (w.addHandle ref).2 where
  numbered := by simp [World.addHandle, acquireHandle]
  denoted handle r found := by
    rw [handle?_addHandle] at found
    by_cases new : handle = w.handles.length
    · exact Or.inl (Nat.le_of_eq new.symm)
    · rw [if_neg new] at found
      exact Or.inr found

theorem KeepsHandles.dropHandle (w : World σ V) (handle : Nat) :
    w.KeepsHandles (w.dropHandle handle) := by
  rw [World.dropHandle]
  cases w.handle? handle with
  | none => exact .of_handles rfl
  | some ref =>
    refine ⟨by simp, fun i r found => Or.inr ?_⟩
    by_cases same : i = handle
    · subst same
      rw [handle?, List.getElem?_set_self'] at found
      cases place : w.handles[i]? <;> simp [place] at found
    · simpa [handle?, List.getElem?_set_ne (Ne.symm same)] using found

theorem Change.keepsHandles (change : Change w w') : w.KeepsHandles w' := by
  cases change with
  | allocated | declared | lent | stored | wrapped => exact .of_handles rfl
  | numbered ref => exact .addHandle w ref
  | tended tends => exact .of_handles tends.handles
  | resolved name living mint =>
    rw [mint]
    exact .of_handles (handles_publish ..)

theorem Becomes.keepsHandles (becomes : w.Becomes w') : w.KeepsHandles w' := by
  induction becomes with
  | refl => exact .of_handles rfl
  | tail _ change ih => exact ih.trans change.keepsHandles

/-- Owners stay numbered, and have what they had for as long as they are
there. -/
structure KeepsOwners (w w' : World σ V) : Prop where
  numbers : ∀ owner, w.Numbers owner → w'.Numbers owner
  denotes : ∀ owner ref, w.Numbers owner → w'.denotes? owner = some ref →
    w.denotes? owner = some ref

theorem KeepsOwners.of_keeps (handles : w.KeepsHandles w') (adapters : w.KeepsAdapters w') :
    w.KeepsOwners w' where
  numbers owner numbered := by
    cases owner with
    | handle handle => exact Nat.lt_of_lt_of_le numbered handles.numbered
    | adapter adapter => exact Nat.lt_of_lt_of_le numbered adapters.numbered
  denotes owner ref numbered found := by
    cases owner with
    | handle handle =>
      exact (handles.denoted handle ref found).resolve_left (Nat.not_le_of_lt numbered)
    | adapter adapter =>
      obtain ⟨a', living', rfl⟩ := Option.map_eq_some_iff.mp found
      obtain ⟨a, living, object, _⟩ :=
        (adapters.living adapter a' living').resolve_left (Nat.not_le_of_lt numbered)
      exact Option.map_eq_some_iff.mpr ⟨a, living, object.symm⟩

theorem keepsOwners_move (w : World σ V) (m : Move σ V) : w.KeepsOwners (w.move m) := by
  have still : ∀ {w w' : World σ V}, w'.adapters = w.adapters → w.KeepsAdapters w' := by
    intro w w' same
    exact .of_livingAdapter? (Nat.le_of_eq (congrArg List.length same.symm))
      fun i a found => Or.inr ((livingAdapter?_congr same i).symm.trans found)
  cases m with
  | clone handle =>
    rw [move]
    cases w.handle? handle with
    | none => exact .of_keeps (.of_handles rfl) (still rfl)
    | some ref => exact .of_keeps (.addHandle w ref) (still rfl)
  | drop handle =>
    have adapters : (w.dropHandle handle).adapters = w.adapters := by
      rw [dropHandle]
      cases w.handle? handle <;> rfl
    exact .of_keeps (.dropHandle w handle) (still adapters)
  | ofAdapter adapter =>
    rw [move]
    cases w.adapter? adapter with
    | none => exact .of_keeps (.of_handles rfl) (still rfl)
    | some a => exact .of_keeps (.addHandle w a.object) (still rfl)
  | dropAdapter adapter =>
    have becomes := (w.tends_dropAdapter adapter).becomes
    exact .of_keeps becomes.keepsHandles becomes.keepsAdapters
  | perform depth r =>
    have becomes := (perform_course depth r w).becomes.ends
    exact .of_keeps becomes.keepsHandles becomes.keepsAdapters

end World

/-! ## Chains of clones and adapters -/

section

variable {w : World σ V} {handle depth adapter : Nat} {ref : ObjectRef}

theorem World.move_clone (found : w.handle? handle = some ref) :
    w.move (.clone handle) = (w.addHandle ref).2 := by
  simp only [World.move, found]

theorem World.move_ofAdapter {a : Adapter V} (found : w.adapter? adapter = some a) :
    w.move (.ofAdapter adapter) = (w.addHandle a.object).2 := by
  simp only [World.move, found]

/-- A handle that is made is found under the next number. -/
theorem World.numbers_addHandle : (w.addHandle ref).2.Numbers (.handle w.handles.length) := by
  simp [World.Numbers, World.addHandle, World.acquireHandle]

/-- An adapter that is made gets the next number, and wraps the object of the
handle. -/
theorem World.move_adapt {codec : Codec V} {text : Option String} {reject : Option Bool}
    {trampoline : Trampoline}
    (made : (Membrane.perform (entryAt depth) (.adapt handle codec text reject trampoline)
      w).value = .adapted adapter) :
    ∃ a : Adapter V, w.handle? handle = some a.object ∧ adapter = w.adapters.length ∧
      w.move (.perform depth (.adapt handle codec text reject trampoline)) =
        (w.addAdapter a).2 := by
  cases found : w.handle? handle with
  | none =>
    simp only [perform, adapt, withHandle, bind, Act.bind, Act.look, found, pure, Act.pure] at made
    cases made
  | some ref =>
    cases options : adapterOptions text reject with
    | error error =>
      simp only [perform, adapt, withHandle, bind, Act.bind, Act.look, found, options, pure,
        Act.pure] at made
      cases made
    | ok read =>
      simp only [perform, adapt, withHandle, bind, Act.bind, Act.look, found, options, pure,
        Act.pure, Act.change] at made
      simp only [World.move, perform, adapt, withHandle, bind, Act.bind, Act.look, found, options,
        pure, Act.pure, Act.change]
      cases made
      exact ⟨_, rfl, rfl, rfl⟩

end

/-- An owner that comes from an origin was given a number, and has a handle of the
origin's object for as long as it is there. -/
theorem Traced.denotes {ms : List (Move σ V)} {owner : Owner} {ref : ObjectRef}
    (traced : Traced ms owner ref) : (World.empty.moves ms).Numbers owner ∧
      ∀ ref', (World.empty.moves ms).denotes? owner = some ref' → ref' = ref := by
  induction traced with
  | @origin ms handle ref found =>
    have numbered : handle < (World.empty.moves ms).handles.length :=
      (List.getElem?_eq_some_iff.mp (Option.join_eq_some_iff.mp found)).1
    exact ⟨numbered, fun ref' found' => Option.some.inj (found'.symm.trans found)⟩
  | @later ms owner ref traced m ih =>
    have keeps := (World.empty.moves ms).keepsOwners_move m
    rw [World.moves_concat]
    exact ⟨keeps.numbers owner ih.1, fun ref' found =>
      ih.2 ref' (keeps.denotes owner ref' ih.1 found)⟩
  | @cloned ms handle ref traced there ih =>
    obtain ⟨r, found⟩ := Option.isSome_iff_exists.mp there
    rw [World.moves_concat, World.move_clone found]
    refine ⟨World.numbers_addHandle, fun ref' new => ?_⟩
    rw [World.denotes?, World.handle?_addHandle, if_pos rfl] at new
    cases new
    exact ih.2 r found
  | @adapted ms handle adapter depth ref codec text reject trampoline traced made ih =>
    obtain ⟨a, found, rfl, moved⟩ := World.move_adapt made
    rw [World.moves_concat, moved]
    refine ⟨by simp [World.Numbers], fun ref' new => ?_⟩
    rw [World.denotes?, World.livingAdapter?_addAdapter, if_pos rfl] at new
    cases new
    exact ih.2 a.object found
  | @ofAdapter ms adapter ref traced there ih =>
    obtain ⟨a, found⟩ := Option.isSome_iff_exists.mp there
    rw [World.moves_concat, World.move_ofAdapter found]
    refine ⟨World.numbers_addHandle, fun ref' new => ?_⟩
    rw [World.denotes?, World.handle?_addHandle, if_pos rfl] at new
    cases new
    apply ih.2 a.object
    rw [World.denotes?, (World.livingAdapter?_of_adapter? found).1]
    rfl

/-- After any moves, the count of every object is the number of handles on it that
were not dropped, of adapters over it that were not torn down, and of function
objects alive that are bound to it, while values that refer to it are not counted; it
is zero only when none of these owners is left. And two owners that are there have
equal handles exactly if they come from handles of one object. -/
theorem handles_are_conserved (ms : List (Move σ V)) :
    let w := World.empty.moves ms
    (∀ o, w.handleCount o = w.numberings o + w.wrappings o + w.bindings o) ∧
    (∀ o, w.handleCount o = 0 ↔
      (∀ handle ref, w.handle? handle = some ref → ref.id ≠ o) ∧
      (∀ i a, w.livingAdapter? i = some a → a.object.id ≠ o) ∧
      ∀ function f, w.function? function = some f → 0 < f.references →
        f.binding.target.id ≠ o) ∧
    ∀ owner owner' origin origin' ref ref', Traced ms owner origin → Traced ms owner' origin' →
      w.denotes? owner = some ref → w.denotes? owner' = some ref' →
      (ref.same ref' = true ↔ origin.id = origin'.id) := by
  intro w
  have accounts : w.Accounts .empty := World.accounts_empty.moves ms
  refine ⟨accounts.handles, accounts.handleCount_eq_zero_iff, ?_⟩
  intro owner owner' origin origin' ref ref' traced traced' denotes denotes'
  rw [traced.denotes.2 ref denotes, traced'.denotes.2 ref' denotes', ObjectRef.same, beq_iff_eq]

/-- Two objects; a handle of the first is cloned, the clone is wrapped, a method of it
is resolved and kept, the first handle is dropped, and another one is taken back from
the adapter. -/
def takingBack : List (Move Nat Value) := [
  .perform 0 (.defineClass callee), .perform 0 (.makeInstance 0 0),
  .perform 0 (.makeFilled .int 0), .clone 0, .perform 0 (.adapt 2 .direct none none .bound),
  .perform 0 (.resolve 0 "m" true none (.done ()) (.done ())), .drop 0, .ofAdapter 0]

/-- The adapter is dropped, then the callable that it leaves is released, then the
handles are dropped. -/
def lettingGo : List (Move Nat Value) := [
  .dropAdapter 0, .perform 0 (.release 1), .drop 2, .drop 3]

/-- The handle that was taken back is equal to the clone and not to a handle of the
other object. Four owners are left, of which the callable is one; it is one of three
when the adapter is dropped, and in the end there is none. -/
theorem handle_is_taken_back :
    let w := World.empty.moves takingBack
    let adapterGone := World.empty.moves (takingBack ++ lettingGo.take 1)
    let gone := World.empty.moves (takingBack ++ lettingGo)
    w.handleCount 0 = w.numberings 0 + w.wrappings 0 + w.bindings 0 ∧ w.handleCount 0 = 4 ∧
      w.bindings 0 = 1 ∧
      adapterGone.handleCount 0 = adapterGone.numberings 0 + adapterGone.bindings 0 ∧
      adapterGone.handleCount 0 = 3 ∧ adapterGone.bindings 0 = 1 ∧
      gone.handleCount 0 = 0 ∧ (∀ function f, gone.function? function = some f →
        0 < f.references → f.binding.target.id ≠ 0) ∧
      ∃ back clone other, w.handle? 3 = some back ∧ w.handle? 2 = some clone ∧
        w.handle? 1 = some other ∧ back.same clone = true ∧ ¬ back.same other = true := by
  intro w adapterGone gone
  obtain ⟨counts, _, same⟩ := handles_are_conserved takingBack
  have laterCounts := (handles_are_conserved (takingBack ++ lettingGo.take 1)).1 0
  have noWrapping : adapterGone.wrappings 0 = 0 := rfl
  rw [noWrapping, Nat.add_zero] at laterCounts
  have zero : gone.handleCount 0 = 0 := rfl
  have nobody := ((handles_are_conserved (takingBack ++ lettingGo)).2.1 0).mp zero
  have first : Traced (takingBack.take 3) (.handle 0) ⟨0, "Callee"⟩ := .origin rfl
  have clone : Traced (takingBack.take 4) (.handle 2) ⟨0, "Callee"⟩ := .cloned first rfl
  have wrapped : Traced (takingBack.take 5) (.adapter 0) ⟨0, "Callee"⟩ := .adapted clone rfl
  have resolved : Traced (takingBack.take 6) (.adapter 0) ⟨0, "Callee"⟩ := wrapped.later _
  have back : Traced takingBack (.handle 3) ⟨0, "Callee"⟩ :=
    .ofAdapter (resolved.later (.drop 0)) rfl
  have other : Traced takingBack (.handle 1) ⟨1, "Int32[]"⟩ := .origin rfl
  have kept : Traced takingBack (.handle 2) ⟨0, "Callee"⟩ :=
    (((clone.later _).later _).later (.drop 0)).later (.ofAdapter 0)
  refine ⟨counts 0, rfl, rfl, laterCounts, rfl, rfl, zero, nobody.2.2, _, _, _, rfl, rfl, rfl,
    ?_, ?_⟩
  · exact (same _ _ _ _ _ _ back kept rfl rfl).mpr rfl
  · exact fun equal => absurd ((same _ _ _ _ _ _ back other rfl rfl).mp equal) (by decide)

/-! ## Counting runs -/

/-- The moves of which a step of a counting run consists. -/
def HandleAction.moves : HandleAction → List (Move Unit Value)
  | .clone handle => [.clone handle]
  | .drop handle => [.drop handle]
  | .adapt handle => [.perform 0 (.adapt handle .direct none none .bound)]
  | .dropAdapter adapter => [.dropAdapter adapter]
  | .ofAdapter adapter => [.ofAdapter adapter]
  | .same _ => []

namespace Counting

theorem step_eq_moves (w : Counting) (action : HandleAction) :
    w.step action = World.moves w action.moves := by
  cases action with
  | clone handle =>
    cases found : World.handle? w handle <;>
      simp only [step, HandleAction.moves, World.moves, List.foldl, World.move, cloneOf, found]
  | drop | dropAdapter | same => rfl
  | adapt handle =>
    cases found : World.handle? w handle <;>
      simp only [step, HandleAction.moves, World.moves, List.foldl, World.move, Counting.adapt,
        perform, Membrane.adapt, withHandle, bind, Act.bind, Act.look, found] <;> rfl
  | ofAdapter adapter =>
    cases found : World.adapter? w adapter <;>
      simp only [step, HandleAction.moves, World.moves, List.foldl, World.move, cloneOf, found,
        Option.map_some, Option.map_none]

theorem accounts_start : World.Accounts start .empty :=
  (World.accounts_empty.addObject _).allocate _

theorem accounts_foldl_step (actions : List HandleAction) {w : Counting}
    (accounts : World.Accounts w .empty) : World.Accounts (actions.foldl step w) .empty := by
  induction actions generalizing w with
  | nil => exact accounts
  | cons action rest ih =>
    apply ih
    rw [step_eq_moves]
    exact accounts.moves action.moves

/-- What a counting run reports after its steps is the number of owners. -/
theorem count_report (actions : List HandleAction) (last : HandleAction) :
    let w := (actions ++ [last]).foldl step start
    (report w last).count = World.numberings w 0 + World.wrappings w 0 + World.bindings w 0 := by
  intro w
  exact (accounts_foldl_step _ accounts_start).handles 0

end Counting

end Membrane
