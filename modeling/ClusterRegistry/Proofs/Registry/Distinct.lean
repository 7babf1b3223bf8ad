import ClusterRegistry.Proofs.Registry.Deletion
import ClusterRegistry.Proofs.Store.Unique

/-!
# Fresh ids are distinct

The store would keep two resources of different kinds under one id. With fresh ids this does not
happen: what is inserted has the ids that are held, and these are not stored under any kind, so that
no batch clashes. Hence no id stands at two addresses (`Store.IdsDistinct`), and an id tells a
resource without its kind.
-/

namespace ClusterRegistry

/-- A call that spends what is held leaves ids distinct. -/
theorem State.Accounts.idsDistinct_answer {s : State} {held : List Id} {others : Id → Prop}
    {c : Call} (haccounts : s.Accounts held others) (h : s.store.IdsDistinct)
    (hc : c.Spends held) : (c.answer s).2.store.IdsDistinct := by
  rw [c.idsDistinct_answer_iff]
  refine ⟨h, ?_⟩
  rintro batch rfl ⟨-, r, hr, kind, hhas⟩
  have hheld : batch.map (·.id) = held := hc
  rw [Store.has_iff] at hhas
  -- the id is stored already, so it cannot be held
  exact (haccounts.stored _ hhas).2.1 (hheld ▸ List.mem_map.mpr ⟨r, hr, rfl⟩)

/-- A script that spends what it holds leaves ids distinct. -/
theorem Script.Spends.idsDistinct_run {α : Type} {P : Except ApiError α → List Id → Prop}
    {x : Script α} {held : List Id} (hx : x.Spends P held) {s : State} {others : Id → Prop}
    (haccounts : s.Accounts held others) (h : s.store.IdsDistinct)
    (hfresh : (x.run s).2.source.Fresh) : (x.run s).2.store.IdsDistinct := by
  induction x generalizing s held with
  | done a => exact h
  | fail e => exact h
  | call c next ih =>
    have hstep : (c.answer s).2.source.Fresh := hfresh.of_leads (source_run _ _)
    obtain ⟨haccepted, hafter⟩ := haccounts.answer hx.1 hstep
    exact ih _ (hx.2 _ haccepted) hafter (haccounts.idsDistinct_answer h hx.1) hfresh

namespace Registry

variable {reg : Registry} {s : State}

/-- Any number of requests that are served with fresh ids leave ids distinct. -/
theorem idsDistinct_answerAll (arrivals : List Arrival) (hs : s.Tidy) (h : s.store.IdsDistinct)
    (hfresh : (reg.answerAll arrivals s).2.source.Fresh) :
    (reg.answerAll arrivals s).2.store.IdsDistinct := by
  induction arrivals generalizing s with
  | nil => exact h
  | cons a rest ih =>
    have hstep : ((reg.script a).run s).2.source.Fresh :=
      hfresh.of_leads (reg.source_answerAll rest _)
    exact ih (reg.tidy_run a hs hstep)
      (((reg.during a).spends_serve a.request).idsDistinct_run hs h hstep) hfresh

/-- With fresh ids no id is stored twice, under whatever kinds. -/
theorem Reachable.idsDistinct (h : reg.Reachable s) (hfresh : s.source.Fresh) :
    s.store.IdsDistinct := by
  obtain ⟨ids, arrivals, rfl⟩ := h
  exact idsDistinct_answerAll arrivals (State.tidy_empty ids) (fun _ _ ha => by cases ha) hfresh

end Registry

end ClusterRegistry
