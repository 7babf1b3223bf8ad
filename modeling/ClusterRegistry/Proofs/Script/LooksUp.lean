import ClusterRegistry.Proofs.Script.Reads

/-!
# Scripts that look up some kinds only

A script that makes no calls but to look up single resources, and these of some kinds only
(`Script.LooksUp`), cannot tell apart stores that agree on these kinds: run in the one or in the
other, it comes to the same answer (`Script.LooksUp.run_eq`).
-/

namespace ClusterRegistry

/-- Whether a call looks up a single resource, of one of some kinds. -/
def Call.LooksUp (kinds : Kind → Prop) : Call → Prop
  | .get kind _ => kinds kind
  | _ => False

/-- Two stores have the same resources of some kinds. -/
def Store.AgreesOn (kinds : Kind → Prop) (s t : Store) : Prop :=
  ∀ kind, kinds kind → ∀ id, t.get? kind id = s.get? kind id

namespace Script

variable {α β : Type} {x : Script α} {f : α → Script β} {kinds kinds' : Kind → Prop} {s t : State}

/-- All calls of a script look up single resources of some kinds. -/
def LooksUp (kinds : Kind → Prop) : Script α → Prop
  | .done _ => True
  | .fail _ => True
  | .call c next => c.LooksUp kinds ∧ ∀ reply, (next reply).LooksUp kinds

theorem looksUp_pure (a : α) : (pure a : Script α).LooksUp kinds := trivial

theorem looksUp_fail (e : ApiError) : (Script.fail e : Script α).LooksUp kinds := trivial

theorem looksUp_get? {kind : Kind} (h : kinds kind) (id : Id) : (get? kind id).LooksUp kinds :=
  ⟨h, fun _ => trivial⟩

theorem LooksUp.bind (hx : x.LooksUp kinds) (hf : ∀ a, (f a).LooksUp kinds) :
    (x >>= f).LooksUp kinds := by
  change (x.bind f).LooksUp kinds
  induction x with
  | done a => exact hf a
  | fail e => trivial
  | call c next ih => exact ⟨hx.1, fun reply => ih reply (hx.2 reply)⟩

theorem LooksUp.mono (hx : x.LooksUp kinds) (h : ∀ kind, kinds kind → kinds' kind) :
    x.LooksUp kinds' := by
  induction x with
  | done a => trivial
  | fail e => trivial
  | call c next ih =>
    refine ⟨?_, fun reply => ih reply (hx.2 reply)⟩
    cases c with
    | get kind id => exact h kind hx.1
    | _ => exact hx.1

/-- Looking up is reading. -/
theorem LooksUp.reads (hx : x.LooksUp kinds) : x.Reads := by
  induction x with
  | done a => trivial
  | fail e => trivial
  | call c next ih =>
    refine ⟨?_, fun reply => ih reply (hx.2 reply)⟩
    cases c with
    | get kind id => rfl
    | _ => exact hx.1.elim

/-- Where stores agree on the kinds that a script looks up, it comes to the same answer. -/
theorem LooksUp.run_eq (hx : x.LooksUp kinds) (h : s.store.AgreesOn kinds t.store) :
    x.run t = ((x.run s).1, t) := by
  induction x with
  | done a => rfl
  | fail e => rfl
  | call c next ih =>
    cases c with
    | get kind id =>
      show (next (t.store.get? kind id)).run t = (((next (s.store.get? kind id)).run s).1, t)
      rw [h kind hx.1 id]
      exact ih _ (hx.2 _)
    | _ => exact hx.1.elim

end Script

end ClusterRegistry
