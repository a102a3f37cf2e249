import Membrane.Bridge.Callable

/-!
# What is closed under calls of objects

An access through an adapter, the dispatch of a function and the call of one look at
what an object shows, and call objects. Whatever is closed under that holds of all of
them.
-/

namespace Membrane

variable {σ V : Type}

/-- A predicate of acts is closed under looking at what an object shows, and under
calls of objects. -/
structure CallClosed (entry : Entry σ V) (P : ∀ α : Type, Act σ V α → Prop) : Prop where
  pure : ∀ {α : Type} (a : α), P α (.pure a)
  bind : ∀ {α β : Type} {act : Act σ V α} {next : α → Act σ V β},
    P α act → (∀ a, P β (next a)) → P β (act >>= next)
  surface : ∀ ref : ObjectRef, P Surface (.look (·.surface ref))
  callObject : ∀ (ref : ObjectRef) (call : HostCall),
    P (Except Fault Value) (callObject entry ref call)

namespace CallClosed

variable {P : ∀ α : Type, Act σ V α → Prop} {entry : Entry σ V}

theorem dispatch (closed : CallClosed entry P) (binding : Binding) (dispatch : Dispatch) :
    P _ (dispatch.run entry binding) := by
  induction dispatch with
  | done outcome => exact closed.pure outcome
  | invoke args next ih => exact closed.bind (closed.callObject _ _) ih

theorem call (closed : CallClosed entry P) (f : FunctionObject V) (args : List V) :
    P _ (f.call entry args) := by
  rw [FunctionObject.call]
  cases args.mapM f.codec.fromEngine with
  | error fault => exact closed.pure _
  | ok values => exact closed.bind (closed.dispatch _ _) fun outcome => closed.pure _

section Access

variable (a : Adapter V)

theorem getProperty (closed : CallClosed entry P) (name : String) :
    P _ (a.getProperty entry name) := by
  apply closed.bind (closed.surface a.object)
  intro surface
  cases surface.property name with
  | none => exact closed.pure _
  | some info =>
    by_cases readable : info.readable
    · simp only [readable, if_true]
      exact closed.bind (closed.callObject _ _) fun outcome => closed.pure _
    · simp only [readable]
      exact closed.pure _

theorem setProperty (closed : CallClosed entry P) (name : String) (v : V) :
    P _ (a.setProperty entry name v) := by
  apply closed.bind (closed.surface a.object)
  intro surface
  cases surface.property name with
  | none =>
    by_cases reject : a.options.contains ⟨true⟩ <;> simp only [reject] <;> exact closed.pure _
  | some info =>
    dsimp only
    cases a.codec.forSlot v info.declaredType with
    | error fault => exact closed.pure _
    | ok value =>
      by_cases writable : info.writable
      · simp only [writable, if_true]
        exact closed.bind (closed.callObject _ _) fun outcome => closed.pure _
      · simp only [writable]
        exact closed.pure _

theorem getIndexed (closed : CallClosed entry P) (index : UInt32) :
    P _ (a.getIndexed entry index) := by
  apply closed.bind (closed.surface a.object)
  intro surface
  cases surface.kind with
  | array => exact closed.bind (closed.callObject _ _) fun outcome => closed.pure _
  | plain => exact closed.pure _
  | reference =>
    cases surface.singleIndexer with
    | none => exact closed.pure _
    | some indexer =>
      by_cases readable : indexer.readable
      · simp only [readable, if_true]
        exact closed.bind (closed.callObject _ _) fun outcome => closed.pure _
      · simp only [readable]
        exact closed.pure _

theorem setElement (closed : CallClosed entry P) (index : UInt32) (value : Value) :
    P _ (a.setElement entry index value) := by
  apply closed.bind (closed.callObject _ _)
  intro outcome
  cases outcome with
  | error fault => exact closed.pure _
  | ok _ => exact closed.bind (closed.callObject _ _) fun outcome => closed.pure _

theorem setIndexed (closed : CallClosed entry P) (index : UInt32) (v : V) :
    P _ (a.setIndexed entry index v) := by
  apply closed.bind (closed.surface a.object)
  intro surface
  by_cases isArray : surface.kind = .array
  · simp only [isArray, if_true]
    cases a.codec.fromEngine v with
    | error fault => exact closed.pure _
    | ok value => exact closed.setElement a index value
  · simp only [isArray, if_false]
    cases surface.singleIndexer with
    | none => exact closed.pure _
    | some indexer =>
      by_cases writable : indexer.writable
      · simp only [writable, if_true]
        cases a.codec.fromEngine v with
        | error fault => exact closed.pure _
        | ok value => exact closed.bind (closed.callObject _ _) fun outcome => closed.pure _
      · simp only [writable]
        exact closed.pure _

theorem access (closed : CallClosed entry P) (access : Access V) :
    P _ (a.perform entry access) := by
  cases access with
  | getProperty name => exact closed.getProperty a name
  | setProperty name v => exact closed.setProperty a name v
  | getIndexed index => exact closed.getIndexed a index
  | setIndexed index v => exact closed.setIndexed a index v

end Access

end CallClosed

end Membrane
