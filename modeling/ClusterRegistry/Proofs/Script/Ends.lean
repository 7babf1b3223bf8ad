import ClusterRegistry.Admission.Resolution
import ClusterRegistry.Proofs.Script.Contract

/-!
# How scripts end

A script may end in many ways, depending on how its calls are answered. What is said here of its
answers and of its failures holds however they are answered (`Script.Ends`), and so of every run
(`Script.Ends.error_of_run`). There is one rule for each way of putting scripts together; with them
a payload is shown to fail to resolve as a bad request only, whatever it refers to
(`Script.ends_resolved`).
-/

namespace ClusterRegistry

/-- Whether a failure is a bad request. -/
def ApiError.BadRequest (e : ApiError) : Prop := e.category = .badRequest

namespace Script

variable {α β : Type} {x : Script α} {P P' : α → Prop} {Q : β → Prop} {F F' : ApiError → Prop}

/-- However its calls are answered, a script answers one thing or fails in one way. -/
def Ends (P : α → Prop) (F : ApiError → Prop) : Script α → Prop
  | .done a => P a
  | .fail e => F e
  | .call _ next => ∀ reply, (next reply).Ends P F

/-! ## Rules -/

theorem ends_pure {a : α} (h : P a) : (pure a : Script α).Ends P F := h

theorem ends_fail {e : ApiError} (h : F e) : (Script.fail e : Script α).Ends P F := h

theorem ends_ask (c : Call) : (ask c).Ends (fun _ => True) F := fun _ => trivial

theorem Ends.bind {f : α → Script β} (hx : x.Ends P F) (hf : ∀ a, P a → (f a).Ends Q F) :
    (x >>= f).Ends Q F := by
  change (x.bind f).Ends Q F
  induction x with
  | done a => exact hf a hx
  | fail e => exact hx
  | call c next ih => exact fun reply => ih reply (hx reply)

theorem Ends.imp (hx : x.Ends P F) (hP : ∀ a, P a → P' a) (hF : ∀ e, F e → F' e) :
    x.Ends P' F' := by
  induction x with
  | done a => exact hP a hx
  | fail e => exact hF e hx
  | call c next ih => exact fun reply => ih reply (hx reply)

/-- What may not be found is missing in a way of its own. -/
theorem Ends.orFail {x : Script (Option Resource)} (hx : x.Ends (fun _ => True) F) {e : ApiError}
    (he : F e) : (x.orFail e).Ends (fun _ => True) F := by
  apply hx.bind
  intro found _
  cases found with
  | none => exact ends_fail he
  | some r => exact ends_pure trivial

/-- A run fails in the way in which the script does. -/
theorem Ends.error_of_run (hx : x.Ends P F) {s t : State} {e : ApiError}
    (h : x.run s = (.error e, t)) : F e := by
  induction x generalizing s with
  | done a => cases h
  | fail e' =>
    cases h
    exact hx
  | call c next ih => exact ih _ (hx _) h

/-! ## Resolving -/

theorem badRequest_of_candidates {o : OwnerReference} {child : Kind} {e : ApiError}
    (h : o.candidates child = .error e) : e.BadRequest := by
  unfold OwnerReference.candidates at h
  split at h
  · cases h
  · split at h
    · split at h
      · cases h
      · cases h
        rfl
    · cases h
      rfl

theorem badRequest_of_referenceId {field uid : String} {e : ApiError}
    (h : referenceId field uid = .error e) : e.BadRequest := by
  unfold referenceId at h
  split at h
  · cases h
  · cases h
    rfl

/-- What is asked of an owner that was looked for: if it was not found, this is a bad request. -/
def Matched (found : Except ApiError OwnerReference) : Prop := ∀ e, found = .error e → e.BadRequest

/-- What is asked of what may have gone wrong: it is a bad request. -/
def Faulty (fault : Option ApiError) : Prop := ∀ e, fault = some e → e.BadRequest

theorem matched_error {e : ApiError} (h : e.BadRequest) : Matched (.error e) := by
  intro e' he
  cases he
  exact h

theorem matched_ok (o : OwnerReference) : Matched (.ok o) := by
  intro e he
  cases he

theorem faulty_none : Faulty none := by
  intro e he
  cases he

theorem faulty_some {e : ApiError} (h : e.BadRequest) : Faulty (some e) := by
  intro e' he
  cases he
  exact h

theorem ends_findOwner (child : Kind) (o : OwnerReference) (id : Id) (kinds : List Kind) :
    (findOwner child o id kinds).Ends Matched F := by
  induction kinds with
  | nil => exact ends_pure (matched_error rfl)
  | cons kind rest ih =>
    apply (ends_ask (.get kind id)).bind
    intro found _
    cases (found : Option Resource) with
    | none => exact ih
    | some owner => exact ends_pure (matched_ok _)

theorem ends_matchOwner (child : Kind) (o : OwnerReference) :
    (matchOwner child o).Ends Matched F := by
  unfold matchOwner
  split
  · next hcandidates =>
    exact ends_pure (matched_error (badRequest_of_candidates hcandidates))
  · split
    · next hid => exact ends_pure (matched_error (badRequest_of_referenceId hid))
    · exact ends_findOwner child o _ _

theorem ends_matchOwners (child : Kind) (owners : List OwnerReference) :
    (matchOwners child owners).Ends (fun found => Faulty found.2) F := by
  induction owners with
  | nil => exact ends_pure faulty_none
  | cons o rest ih =>
    apply (ends_matchOwner child o).bind
    intro found hfound
    cases found with
    | error e => exact ends_pure (faulty_some (hfound e rfl))
    | ok resolved => exact ih.bind fun others hothers => ends_pure hothers

theorem ends_checkReferences (references : List FieldReference) :
    (checkReferences references).Ends Faulty F := by
  induction references with
  | nil => exact ends_pure faulty_none
  | cons f rest ih =>
    unfold checkReferences
    split
    · exact ih
    · split
      · next hid =>
        exact ends_pure (faulty_some (badRequest_of_referenceId hid))
      · apply (ends_ask (.get _ _)).bind
        intro found _
        cases (found : Option Resource) with
        | none => exact ends_pure (faulty_some rfl)
        | some parent => exact ih

/-- A payload that refers to what is not there, or should not be referred to, is a bad request. -/
theorem ends_resolved (r : Resource) :
    (resolved r).Ends (fun _ => True) ApiError.BadRequest := by
  unfold resolved resolution
  apply Ends.bind (P := fun outcome => Faulty outcome.fault)
  · apply (ends_matchOwners _ _).bind
    intro found hfound
    obtain ⟨owners, fault⟩ := found
    cases fault with
    | some e => exact ends_pure hfound
    | none => exact (ends_checkReferences _).bind fun fault hfault => ends_pure hfault
  · intro outcome houtcome
    split
    · next hfault => exact ends_fail (houtcome _ hfault)
    · exact ends_pure trivial

end Script

end ClusterRegistry
