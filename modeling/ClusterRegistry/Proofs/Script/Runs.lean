import ClusterRegistry.Proofs.Script.Traceless

/-!
# Scripts that come to an answer

A script that runs to an answer has come to an answer in each of its steps
(`Script.exists_of_run_bind`). Steps that only read leave the state as it is, so a request that was
answered is told by what it read, all in the state in which it was asked, and by what its one
write did to that state.
-/

namespace ClusterRegistry

namespace Script

variable {α β : Type} {x : Script α} {f : α → Script β} {s t : State} {a : α} {b : β}

/-- A script goes on with the answer of the one before it. -/
theorem run_bind_of_ok (h : x.run s = (.ok a, t)) : (x >>= f).run s = (f a).run t := by
  rw [run_bind, h]

/-- A script does not go on after a failure. -/
theorem run_bind_of_error {e : ApiError} (h : x.run s = (.error e, t)) :
    (x >>= f).run s = (.error e, t) := by
  rw [run_bind, h]

/-- What does not fail comes to an answer. -/
theorem exists_run_of_isOk (h : (x.run s).1.isOk = true) : ∃ a t, x.run s = (.ok a, t) := by
  cases hrun : x.run s with
  | mk outcome t =>
    rw [hrun] at h
    cases outcome with
    | error e => cases h
    | ok a => exact ⟨a, t, rfl⟩

/-- Where one script after another comes to an answer, the first has come to one. -/
theorem exists_of_run_bind (h : (x >>= f).run s = (.ok b, t)) :
    ∃ a u, x.run s = (.ok a, u) ∧ (f a).run u = (.ok b, t) := by
  rw [run_bind] at h
  cases hx : x.run s with
  | mk outcome u =>
    rw [hx] at h
    cases outcome with
    | ok a => exact ⟨a, u, rfl, h⟩
    | error e => cases h

/-- A script that goes on after reading goes on in the same state. -/
theorem Reads.exists_of_run_bind (hx : x.Reads) (h : (x >>= f).run s = (.ok b, t)) :
    ∃ a, x.run s = (.ok a, s) ∧ (f a).run s = (.ok b, t) := by
  obtain ⟨a, u, hrun, hnext⟩ := Script.exists_of_run_bind h
  have hstate : u = s := by
    rw [← hx.run s, hrun]
  subst hstate
  exact ⟨a, hrun, hnext⟩

/-- A step without calls that succeeds is the value that it gives. -/
theorem exists_of_run_ofExcept_bind {r : Except ApiError α}
    (h : (ofExcept r >>= f).run s = (.ok b, t)) : ∃ a, r = .ok a ∧ (f a).run s = (.ok b, t) := by
  obtain ⟨a, hrun, hnext⟩ := (reads_ofExcept r).exists_of_run_bind h
  rw [run_ofExcept] at hrun
  exact ⟨a, congrArg Prod.fst hrun, hnext⟩

/-- A script that comes to an answer in another form has come to one. -/
theorem exists_of_run_map {g : α → β} (h : (g <$> x).run s = (.ok b, t)) :
    ∃ a, x.run s = (.ok a, t) ∧ g a = b := by
  rw [← bind_pure_comp] at h
  obtain ⟨a, u, hrun, hnext⟩ := exists_of_run_bind h
  cases hnext
  exact ⟨a, hrun, rfl⟩

/-- What is found is not a failure. -/
theorem run_of_run_orFail {x : Script (Option Resource)} {e : ApiError} {r : Resource}
    (h : (x.orFail e).run s = (.ok r, t)) : x.run s = (.ok (some r), t) := by
  obtain ⟨found, u, hrun, hnext⟩ := exists_of_run_bind h
  cases found with
  | none => cases hnext
  | some q =>
    cases hnext
    exact hrun

/-- What is read is what is stored. -/
theorem get?_of_run_get? {kind : Kind} {id : Id} {found : Option Resource}
    (h : (get? kind id).run s = (.ok found, t)) : s.store.get? kind id = found :=
  Except.ok.inj (congrArg Prod.fst h)

/-- A batch that is inserted stands in the store, and nothing else has changed. -/
theorem inserted_of_run_insert {batch : List Resource}
    (h : (insert batch).run s = (.ok (), t)) :
    s.store.Inserted t.store batch ∧ t.source = s.source := by
  rcases Call.answer_insert s batch with ⟨cause, hanswer⟩ | ⟨store, hanswer, hinserted⟩
  · rw [insert, run_bind, run_ask, hanswer] at h
    cases h
  · rw [insert, run_bind, run_ask, hanswer] at h
    cases h
    exact ⟨hinserted, rfl⟩

/-- A spec that is written replaces the entry at its address and keeps the status there. -/
theorem exists_of_run_setSpec {r written : Resource}
    (h : (setSpec r).run s = (.ok (some written), t)) :
    ∃ e, s.store.at? r.address = some e ∧ written = r.withStatus e.resource.status ∧
      t.source = s.source ∧
      ∀ a, t.store.at? a = if a = r.address then some (.ofResource written) else s.store.at? a := by
  rcases Call.answer_setSpec s r with ⟨-, hanswer⟩ | ⟨e, store, he, hanswer, hstore⟩
  · have hnone : (setSpec r).run s = (.ok none, s) := run_ask_of_answer hanswer
    rw [hnone] at h
    cases h
  · have hsome : (setSpec r).run s = (.ok (some _), _) := run_ask_of_answer hanswer
    rw [hsome] at h
    cases h
    exact ⟨e, he, rfl, rfl, hstore⟩

/-- A status that is written replaces the one that stands in the entry at the address. -/
theorem exists_of_run_setStatus {kind : Kind} {id : Id} {status : Status} {written : Resource}
    (h : (setStatus kind id status).run s = (.ok (some written), t)) :
    ∃ e, s.store.at? ⟨kind, id⟩ = some e ∧ written = e.resource.withStatus status ∧
      t.source = s.source ∧
      ∀ a, t.store.at? a =
        if a = ⟨kind, id⟩ then some ⟨written, e.parents⟩ else s.store.at? a := by
  rcases Call.answer_setStatus s kind id status with ⟨-, hanswer⟩ | ⟨e, store, he, hanswer, hstore⟩
  · have hnone : (setStatus kind id status).run s = (.ok none, s) := run_ask_of_answer hanswer
    rw [hnone] at h
    cases h
  · have hsome : (setStatus kind id status).run s = (.ok (some _), _) :=
      run_ask_of_answer hanswer
    rw [hsome] at h
    cases h
    exact ⟨e, he, rfl, rfl, hstore⟩

end Script

end ClusterRegistry
