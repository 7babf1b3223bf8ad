import ClusterRegistry.Store.Script

/-!
# Scripts that share a state

A script makes its calls one by one, and between two of them others may have made theirs. A
`Contract` says on which terms a state is shared: what always holds of it, what may become of
it, and which calls a script may make. A script that keeps a contract (`Script.Keeps`) makes
only such calls, whatever the state has become in between.

Running a script from start to end is the case in which nobody comes in between
(`Script.Keeps.run`); the case in which many scripts take turns is built on the same predicate.
What a request does is therefore shown once and serves for both.
-/

namespace ClusterRegistry

/-- The terms on which scripts share a state. -/
structure Contract where
  /-- What always holds of the state. -/
  inv : State → Prop
  /-- What may become of a state. -/
  leads : State → State → Prop
  /-- The calls that may be made in a state. -/
  may : State → Call → Prop
  leads_refl : ∀ s, leads s s
  leads_trans : ∀ {s t u}, leads s t → leads t u → leads s u
  inv_answer : ∀ {s c}, inv s → may s c → inv (c.answer s).2
  leads_answer : ∀ {s c}, inv s → may s c → leads s (c.answer s).2
  may_get : ∀ s kind id, may s (.get kind id)
  may_list : ∀ s kind filter, may s (.list kind filter)
  may_drawId : ∀ s, may s .drawId

namespace Script

/-- The resource that was found, or else a failure. -/
def orFail (x : Script (Option Resource)) (e : ApiError) : Script Resource := do
  match ← x with
  | some r => return r
  | none => .fail e

variable {α β : Type} {C : Contract} {P : α → State → Prop} {Q : β → State → Prop}
  {s t : State}

/-- A script, last seen in a state, makes only calls that it may make, whatever becomes of the
state before each of them; and if it comes to an answer, `post` holds of it. -/
def Keeps (C : Contract) (post : α → State → Prop) : Script α → State → Prop
  | .done a, s => post a s
  | .fail _, _ => True
  | .call c next, s =>
    ∀ t, C.leads s t → C.inv t → C.may t c ∧ (next (c.answer t).1).Keeps C post (c.answer t).2

theorem keeps_pure {a : α} (h : P a s) : (pure a : Script α).Keeps C P s := h

theorem keeps_fail (e : ApiError) : (Script.fail e : Script α).Keeps C P s := trivial

/-- A step without calls. -/
theorem keeps_ofExcept {x : Except ApiError α} (h : ∀ a, x = .ok a → P a s) :
    (ofExcept x).Keeps C P s := by
  cases x with
  | ok a => exact h a rfl
  | error e => trivial

/-- A step that was taken was not in vain. -/
theorem keeps_step (x : Except ApiError α) : (ofExcept x).Keeps C (fun a _ => x = .ok a) s :=
  keeps_ofExcept fun _ h => h

/-- A single call. -/
theorem keeps_ask {c : Call} {P : c.Reply → State → Prop}
    (h : ∀ t, C.leads s t → C.inv t → C.may t c ∧ P (c.answer t).1 (c.answer t).2) :
    (ask c).Keeps C P s := h

/-- What is read is what was stored when it was read. -/
theorem keeps_get? (kind : Kind) (id : Id) :
    (get? kind id).Keeps C
      (fun found t => C.leads s t ∧ C.inv t ∧ found = t.store.get? kind id) s :=
  keeps_ask fun t hst ht => ⟨C.may_get t kind id, hst, ht, rfl⟩

theorem keeps_drawId : drawId.Keeps C (fun _ _ => True) s :=
  keeps_ask fun t _ _ => ⟨C.may_drawId t, trivial⟩

/-- Inserting a batch, where it may be inserted. -/
theorem keeps_insert {batch : List Resource}
    (h : ∀ t, C.leads s t → C.inv t → C.may t (.insert batch)) :
    (insert batch).Keeps C (fun _ _ => True) s := by
  intro t hst ht
  refine ⟨h t hst ht, ?_⟩
  cases (Call.answer (.insert batch) t).1 with
  | ok a => trivial
  | error e => trivial

/-- A script goes on from a state that the one before it has led to. -/
theorem Keeps.bind {x : Script α} {f : α → Script β} (hx : x.Keeps C P s)
    (hf : ∀ a t, C.leads s t → P a t → (f a).Keeps C Q t) : (x >>= f).Keeps C Q s := by
  change (x.bind f).Keeps C Q s
  -- by induction on the first script, from any state that it may find
  induction x generalizing s with
  | done a => exact hf a s (C.leads_refl s) hx
  | fail e => trivial
  | call c next ih =>
    intro t hst ht
    obtain ⟨hmay, hnext⟩ := hx t hst ht
    have hsu : C.leads s (c.answer t).2 := C.leads_trans hst (C.leads_answer ht hmay)
    exact ⟨hmay, ih _ hnext fun a u hu ha => hf a u (C.leads_trans hsu hu) ha⟩

/-- What holds of something that may be found holds of it if it is. -/
theorem Keeps.orFail {x : Script (Option Resource)} {P : Option Resource → State → Prop}
    (hx : x.Keeps C P s) (e : ApiError) :
    (x.orFail e).Keeps C (fun r t => P (some r) t) s := by
  apply hx.bind
  intro found t _ hfound
  cases found with
  | some r => exact keeps_pure hfound
  | none => exact keeps_fail e

/-- Less may be said of the answer. -/
theorem Keeps.imp {P' : α → State → Prop} {x : Script α} (hx : x.Keeps C P s)
    (h : ∀ a t, C.leads s t → P a t → P' a t) : x.Keeps C P' s := by
  rw [← bind_pure x]
  exact hx.bind fun a t hst ha => keeps_pure (h a t hst ha)

/-- A script whose answer is put into another form. -/
theorem Keeps.map {x : Script α} (hx : x.Keeps C P s) (f : α → β)
    (h : ∀ a t, C.leads s t → P a t → Q (f a) t) : (f <$> x).Keeps C Q s := by
  rw [← bind_pure_comp]
  exact hx.bind fun a t hst ha => keeps_pure (h a t hst ha)

/-- A script that is run to its end without anyone in between. -/
theorem Keeps.run {x : Script α} (hx : x.Keeps C P s) (hs : C.inv s) :
    C.inv (x.run s).2 ∧ C.leads s (x.run s).2 ∧ ∀ a, (x.run s).1 = .ok a → P a (x.run s).2 := by
  induction x generalizing s with
  | done a => exact ⟨hs, C.leads_refl s, fun b hb => by cases hb; exact hx⟩
  | fail e => exact ⟨hs, C.leads_refl s, fun b hb => by cases hb⟩
  | call c next ih =>
    -- nobody has come in between, so the call finds the state as it was left
    obtain ⟨hmay, hnext⟩ := hx s (C.leads_refl s) hs
    have hstep : C.leads s (c.answer s).2 := C.leads_answer hs hmay
    obtain ⟨hinv, hleads, hpost⟩ := ih _ hnext (C.inv_answer hs hmay)
    exact ⟨hinv, C.leads_trans hstep hleads, hpost⟩

end Script

end ClusterRegistry
