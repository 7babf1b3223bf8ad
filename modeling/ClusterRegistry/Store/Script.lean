import ClusterRegistry.Store.Basic

/-!
# Requests as scripts of store calls

A request talks to the store in calls, each of which the store answers at once and as a
whole. A `Script` is a request as the calls it makes: what it does next depends on the
answers so far and on nothing else. Running a script from some state to its end is what a
single caller sees; where several callers take turns, each turn is one call.

Ids come from a source that is part of the state: the `n`-th draw gives the `n`-th id of an
unending list.
-/

namespace ClusterRegistry

/-- Where new ids come from. -/
structure IdSource where
  /-- The ids in the order in which they are given out. -/
  ids : Nat → Id
  /-- How many were given out. -/
  drawn : Nat := 0

/-- The ids listed first, and after them one number after the other. -/
def IdSource.counting (listed : List Id) (first : UInt64) : IdSource where
  ids n := listed.getD n ⟨first + .ofNat (n - listed.length)⟩

/-- The stored resources and the source of new ids. -/
structure State where
  store : Store
  source : IdSource

/-- A call to the store. -/
inductive Call
  | get (kind : Kind) (id : Id)
  | list (kind : Kind) (filter : Filter)
  | drawId
  | insert (batch : List Resource)
  | setSpec (resource : Resource)
  | setStatus (kind : Kind) (id : Id) (status : Status)

/-- What the store answers to a call. -/
def Call.Reply : Call → Type
  | .get _ _ => Option Resource
  | .list _ _ => List Resource
  | .drawId => Id
  | .insert _ => Except StoreError Unit
  | .setSpec _ => Option Resource
  | .setStatus _ _ _ => Option Resource

/-- The answer to a call and the state after it. -/
def Call.answer : (c : Call) → State → c.Reply × State
  | .get kind id, s => (s.store.get? kind id, s)
  | .list kind filter, s => (s.store.list kind filter, s)
  | .drawId, s =>
    (s.source.ids s.source.drawn, { s with source.drawn := s.source.drawn + 1 })
  | .insert batch, s =>
    match s.store.insert batch with
    | .ok store => (.ok (), { s with store })
    | .error e => (.error e, s)
  | .setSpec r, s =>
    match s.store.setSpec r with
    | some (merged, store) => (some merged, { s with store })
    | none => (none, s)
  | .setStatus kind id status, s =>
    match s.store.setStatus kind id status with
    | some (changed, store) => (some changed, { s with store })
    | none => (none, s)

/-- A request as the calls it makes to the store. -/
inductive Script (α : Type) : Type
  | done (answer : α)
  | fail (error : ApiError)
  | call (c : Call) (next : c.Reply → Script α)

namespace Script

variable {α β : Type}

/-- One script after another. -/
def bind : Script α → (α → Script β) → Script β
  | .done a, f => f a
  | .fail e, _ => .fail e
  | .call c next, f => .call c fun reply => (next reply).bind f

instance : Monad Script where
  pure := .done
  bind := bind

/-- The script of a single call. -/
def ask (c : Call) : Script c.Reply := .call c .done

/-- A step that makes no calls. -/
def ofExcept : Except ApiError α → Script α
  | .ok a => .done a
  | .error e => .fail e

/-- The answer to a request that is run to its end, and the state after it. -/
def run : Script α → State → Except ApiError α × State
  | .done a, s => (.ok a, s)
  | .fail e, s => (.error e, s)
  | .call c next, s => (next (c.answer s).1).run (c.answer s).2

/-! ## Laws -/

@[simp] theorem run_pure (a : α) (s : State) : (pure a : Script α).run s = (.ok a, s) := rfl

@[simp] theorem run_fail (e : ApiError) (s : State) :
    (Script.fail e : Script α).run s = (.error e, s) := rfl

@[simp] theorem run_ask (c : Call) (s : State) :
    (ask c).run s = (.ok (c.answer s).1, (c.answer s).2) := rfl

/-- A script goes on in the state that the one before it left, and not at all after a failure. -/
theorem run_bind (x : Script α) (f : α → Script β) (s : State) :
    (x >>= f).run s =
      match x.run s with
      | (.ok a, t) => (f a).run t
      | (.error e, t) => (.error e, t) := by
  change (x.bind f).run s = _
  induction x generalizing s with
  | done a => rfl
  | fail e => rfl
  | call c next ih => exact ih (c.answer s).1 (c.answer s).2

/-- A step without calls leaves the state as it is. -/
theorem run_ofExcept (x : Except ApiError α) (s : State) : (ofExcept x).run s = (x, s) := by
  cases x <;> rfl

theorem bind_done (x : Script α) : x.bind .done = x := by
  induction x with
  | done a => rfl
  | fail e => rfl
  | call c next ih => exact congrArg (Script.call c) (funext ih)

theorem bind_bind {γ : Type} (x : Script α) (f : α → Script β) (g : β → Script γ) :
    (x.bind f).bind g = x.bind fun a => (f a).bind g := by
  induction x with
  | done a => rfl
  | fail e => rfl
  | call c next ih => exact congrArg (Script.call c) (funext ih)

instance : LawfulMonad Script := .mk' Script bind_done (fun _ _ => rfl) bind_bind

/-! ## Calls -/

/-- The resource of a kind with an id. -/
def get? (kind : Kind) (id : Id) : Script (Option Resource) := ask (.get kind id)

/-- The resources of a kind that a filter accepts. -/
def list (kind : Kind) (filter : Filter) : Script (List Resource) := ask (.list kind filter)

/-- A new id. -/
def drawId : Script Id := ask .drawId

/-- A batch stored as a whole. -/
def insert (batch : List Resource) : Script Unit := do
  match ← ask (.insert batch) with
  | .ok () => .done ()
  | .error e => .fail (.storeRefused e)

/-- A stored resource with everything but its status replaced. -/
def setSpec (r : Resource) : Script (Option Resource) := ask (.setSpec r)

/-- A stored resource with its status replaced. -/
def setStatus (kind : Kind) (id : Id) (status : Status) : Script (Option Resource) :=
  ask (.setStatus kind id status)

end Script

end ClusterRegistry
