import ClusterRegistry.Proofs.Registry.Reading
import ClusterRegistry.Proofs.Script.Ends
import ClusterRegistry.Proofs.Script.Spends

/-!
# Scripts that are not to blame

A failure is ordinary if it is not one of the server's own, which are answered as internal. A script
is blameless if it inserts all ids that it draws and comes to ordinary failures only, as long as the
store does not refuse it (`Script.Blameless`). There is one rule for each way of putting scripts
together, and a script that only reads is blameless if it ends decently (`Script.Ends.blameless`).
-/

namespace ClusterRegistry

/-- Whether a failure is not one of the server's own. -/
def ApiError.Ordinary (e : ApiError) : Prop := e.category ≠ .internal

/-! ## Scripts -/

namespace Script

variable {α β : Type} {x : Script α} {P : α → Prop} {Q : β → Prop}

/-- What is asked of an outcome: something of an answer, and of a failure that it is ordinary. -/
def Decent (P : α → Prop) : Except ApiError α → Prop
  | .ok a => P a
  | .error e => e.Ordinary

/-- A script that inserts all ids which it draws, and that comes to a decent outcome as long as it
is not refused. -/
abbrev Blameless (P : α → Prop) (x : Script α) : Prop :=
  x.Spends (fun outcome after => after = [] ∧ Decent P outcome) []

theorem blameless_pure {a : α} (h : P a) : (pure a : Script α).Blameless P := ⟨rfl, h⟩

theorem blameless_fail {e : ApiError} (h : e.Ordinary) : (Script.fail e : Script α).Blameless P :=
  ⟨rfl, h⟩

theorem blameless_ofExcept {r : Except ApiError α} (h : ∀ e, r = .error e → e.Ordinary) :
    (ofExcept r).Blameless fun _ => True := by
  cases r with
  | ok a => exact blameless_pure trivial
  | error e => exact blameless_fail (h e rfl)

theorem blameless_get? (kind : Kind) (id : Id) : (get? kind id).Blameless fun _ => True :=
  ⟨trivial, fun _ _ => ⟨rfl, trivial⟩⟩

theorem blameless_list (kind : Kind) (filter : Filter) :
    (list kind filter).Blameless fun _ => True :=
  ⟨trivial, fun _ _ => ⟨rfl, trivial⟩⟩

theorem Blameless.bind {f : α → Script β} (hx : x.Blameless P)
    (hf : ∀ a, P a → (f a).Blameless Q) : (x >>= f).Blameless Q := by
  refine Spends.bind hx (fun a after h => ?_) fun e after h => h
  obtain ⟨rfl, ha⟩ := h
  exact hf a ha

theorem Blameless.map (hx : x.Blameless P) (g : α → β) : (g <$> x).Blameless fun _ => True := by
  rw [← bind_pure_comp]
  exact hx.bind fun _ _ => blameless_pure trivial

theorem Blameless.orFail {x : Script (Option Resource)} {P : Option Resource → Prop}
    (hx : x.Blameless P) {e : ApiError} (he : e.Ordinary) :
    (x.orFail e).Blameless fun _ => True := by
  apply hx.bind
  intro found _
  cases found with
  | none => exact blameless_fail he
  | some r => exact blameless_pure trivial

/-- A script that fails only if it is refused has nothing to blame. -/
theorem Succeeds.blameless (hx : x.Succeeds (fun _ after => after = []) []) :
    x.Blameless fun _ => True := by
  rw [← bind_pure x]
  refine Succeeds.bind hx fun a after hafter => ?_
  rw [hafter]
  exact blameless_pure trivial

/-- A script that only reads is blameless if all its failures are ordinary. -/
theorem Ends.blameless (hx : x.Ends P ApiError.Ordinary) (hreads : x.Reads) : x.Blameless P := by
  induction x with
  | done a => exact ⟨rfl, hx⟩
  | fail e => exact ⟨rfl, hx⟩
  | call c next ih =>
    cases c with
    | get kind id => exact ⟨trivial, fun reply _ => ih reply (hx reply) (hreads.2 reply)⟩
    | list kind filter => exact ⟨trivial, fun reply _ => ih reply (hx reply) (hreads.2 reply)⟩
    | _ => exact absurd hreads.1 Bool.false_ne_true

theorem blameless_resolved (r : Resource) : (resolved r).Blameless fun _ => True := by
  refine Ends.blameless ((ends_resolved r).imp (fun _ h => h) fun e he hinternal => ?_)
    (looksUp_resolved r).reads
  have hcategory : ErrorCategory.badRequest = .internal := he.symm.trans hinternal
  cases hcategory

end Script

end ClusterRegistry
