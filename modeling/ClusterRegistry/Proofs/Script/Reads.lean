import ClusterRegistry.Proofs.Script.Contract

/-!
# Scripts that only read

Most of what a request does is looking things up. A script that makes no other calls
(`Script.Reads`) leaves the state as it is and keeps every contract. A script that reads first
and writes in the end (`Script.ReadsThen`) is told by its end.
-/

namespace ClusterRegistry

/-- Whether a call looks something up in the store and does nothing else. -/
def Call.reads : Call → Bool
  | .get _ _ | .list _ _ => true
  | _ => false

/-- A call that reads leaves the state as it is. -/
theorem Call.answer_of_reads {c : Call} (h : c.reads = true) (s : State) : (c.answer s).2 = s := by
  cases c with
  | get kind id => rfl
  | list kind filter => rfl
  | drawId => cases h
  | insert batch => cases h
  | setSpec r => cases h
  | setStatus kind id status => cases h

/-- A call that reads may always be made. -/
theorem Contract.may_of_reads (C : Contract) {c : Call} (h : c.reads = true) (s : State) :
    C.may s c := by
  cases c with
  | get kind id => exact C.may_get s kind id
  | list kind filter => exact C.may_list s kind filter
  | drawId => cases h
  | insert batch => cases h
  | setSpec r => cases h
  | setStatus kind id status => cases h

namespace Script

variable {α β : Type} {x : Script α} {f : α → Script β}

/-- All calls of a script read. -/
def Reads : Script α → Prop
  | .done _ => True
  | .fail _ => True
  | .call c next => c.reads = true ∧ ∀ reply, (next reply).Reads

theorem reads_pure (a : α) : (pure a : Script α).Reads := trivial

theorem reads_fail (e : ApiError) : (Script.fail e : Script α).Reads := trivial

theorem reads_ofExcept (r : Except ApiError α) : (ofExcept r).Reads := by
  cases r <;> trivial

theorem reads_get? (kind : Kind) (id : Id) : (get? kind id).Reads := ⟨rfl, fun _ => trivial⟩

theorem reads_list (kind : Kind) (filter : Filter) : (list kind filter).Reads :=
  ⟨rfl, fun _ => trivial⟩

theorem Reads.bind (hx : x.Reads) (hf : ∀ a, (f a).Reads) : (x >>= f).Reads := by
  change (x.bind f).Reads
  induction x with
  | done a => exact hf a
  | fail e => trivial
  | call c next ih => exact ⟨hx.1, fun reply => ih reply (hx.2 reply)⟩

theorem Reads.orFail {x : Script (Option Resource)} (hx : x.Reads) (e : ApiError) :
    (x.orFail e).Reads := by
  apply hx.bind
  intro found
  cases found with
  | some r => exact reads_pure r
  | none => exact reads_fail e

theorem Reads.map (hx : x.Reads) (g : α → β) : (g <$> x).Reads := by
  rw [← bind_pure_comp]
  exact hx.bind fun a => reads_pure (g a)

theorem run_get? (kind : Kind) (id : Id) (s : State) :
    (get? kind id).run s = (.ok (s.store.get? kind id), s) := rfl

/-- A script that only reads leaves the state as it is. -/
theorem Reads.run (hx : x.Reads) (s : State) : (x.run s).2 = s := by
  induction x with
  | done a => rfl
  | fail e => rfl
  | call c next ih =>
    have hstate : (c.answer s).2 = s := Call.answer_of_reads hx.1 s
    show ((next (c.answer s).1).run (c.answer s).2).2 = s
    rw [hstate]
    exact ih _ (hx.2 _)

/-- A script that only reads keeps every contract. -/
theorem Reads.keeps (hx : x.Reads) (C : Contract) (s : State) :
    x.Keeps C (fun _ _ => True) s := by
  induction x generalizing s with
  | done a => trivial
  | fail e => trivial
  | call c next ih => exact fun t _ _ => ⟨C.may_of_reads hx.1 t, ih _ (hx.2 _) _⟩

/-- A script reads until it comes to an end of some form, and may give up before. -/
def ReadsThen (final : Script α → Prop) : Script α → Prop
  | .done a => final (.done a)
  | .fail _ => True
  | .call c next =>
    final (.call c next) ∨ c.reads = true ∧ ∀ reply, (next reply).ReadsThen final

variable {final : Script β → Prop}

theorem readsThen_of_final {x : Script β} (h : final x) : x.ReadsThen final := by
  cases x with
  | done b => exact h
  | fail e => trivial
  | call c next => exact .inl h

theorem Reads.bind_readsThen (hx : x.Reads) (hf : ∀ a, (f a).ReadsThen final) :
    (x >>= f).ReadsThen final := by
  change (x.bind f).ReadsThen final
  induction x with
  | done a => exact hf a
  | fail e => trivial
  | call c next ih => exact .inr ⟨hx.1, fun reply => ih reply (hx.2 reply)⟩

/-- A script that goes on after reading, and whose answer is put into another form. -/
theorem Reads.map_bind_readsThen {γ : Type} {g : γ → β} {f : α → Script γ} (hx : x.Reads)
    (hf : ∀ a, (g <$> f a).ReadsThen final) : (g <$> (x >>= f)).ReadsThen final := by
  rw [map_bind]
  exact hx.bind_readsThen hf

theorem Reads.readsThen {x : Script β} (hx : x.Reads) (h : ∀ b, final (.done b)) :
    x.ReadsThen final := by
  rw [← bind_pure x]
  exact hx.bind_readsThen fun b => h b

end Script

end ClusterRegistry
