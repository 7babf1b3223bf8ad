import ClusterRegistry.Proofs.Script.Spends

/-!
# Scripts that fail without a trace

What a script leaves behind when it fails (`Script.Traceless`) is decided by its last call, as all
calls before it read. A write that finds nothing to replace has changed nothing, so a script that ends
with one is done as a whole or not at all (`Script.Atomic`). A batch that is refused has changed
nothing either, but the ids in it are gone; with fresh ids none is refused.
-/

namespace ClusterRegistry

/-- Everything stored has an id that was drawn. -/
def State.Tidy (s : State) : Prop := s.Accounts [] fun _ => False

theorem State.tidy_empty (ids : Nat → Id) : State.Tidy ⟨.empty, { ids }⟩ where
  distinct := List.nodup_nil
  drawn _ hid := (hid.resolve_left List.not_mem_nil).elim
  apart _ _ hother := hother
  stored _ ha := by cases ha

namespace Script

variable {α β : Type}

/-- A script that fails leaves the state as it was. -/
def Atomic (x : Script α) : Prop := ∀ s e t, x.run s = (.error e, t) → t = s

theorem Reads.atomic {x : Script α} (hx : x.Reads) : x.Atomic := by
  intro s e t h
  rw [← hx.run s, h]

/-- What goes on after reading leaves the state as it was if what it goes on with does. -/
theorem Reads.bind_atomic {x : Script α} {f : α → Script β} (hx : x.Reads)
    (hf : ∀ a, (f a).Atomic) : (x >>= f).Atomic := by
  intro s e t h
  have hstate := hx.run s
  rw [run_bind] at h
  cases hrun : x.run s with
  | mk outcome u =>
    rw [hrun] at h hstate
    subst hstate
    cases outcome with
    | ok a => exact hf a u e t h
    | error e' =>
      cases h
      rfl

/-- A script that fails leaves the state as it was, or else the store has refused its batch, and
then only ids were drawn and they were not all fresh. -/
def Traceless (x : Script α) : Prop :=
  ∀ s e t, x.run s = (.error e, t) → t = s ∨
    t.store = s.store ∧ (∃ cause, e = .storeRefused cause) ∧ ¬ (s.Tidy ∧ t.source.Fresh)

/-- A script leaves no trace if its end leaves none. -/
theorem ReadsThen.traceless {x : Script α} {final : Script α → Prop} (hx : x.ReadsThen final)
    (hfinal : ∀ y, final y → y.Traceless) : x.Traceless := by
  induction x with
  | done a => exact hfinal _ hx
  | fail e =>
    intro s e' t h
    cases h
    exact .inl rfl
  | call c next ih =>
    rcases hx with hend | ⟨hreads, hnext⟩
    · exact hfinal _ hend
    · intro s e t h
      have hstate : (c.answer s).2 = s := Call.answer_of_reads hreads s
      rw [run, hstate] at h
      exact ih _ (hnext _) s e t h

theorem run_map (f : α → β) (x : Script α) (s : State) :
    (f <$> x).run s = ((x.run s).1.map f, (x.run s).2) := by
  rw [← bind_pure_comp, run_bind]
  obtain ⟨outcome, t⟩ := x.run s
  cases outcome <;> rfl

/-- A script that fails before its answer is put into another form has failed. -/
theorem run_eq_error_of_map {f : α → β} {x : Script α} {s t : State} {e : ApiError}
    (h : (f <$> x).run s = (.error e, t)) : x.run s = (.error e, t) := by
  rw [run_map] at h
  obtain ⟨houtcome, rfl⟩ := Prod.mk.inj h
  refine Prod.ext ?_ rfl
  cases hrun : (x.run s).1 with
  | ok a =>
    rw [hrun] at houtcome
    cases houtcome
  | error e' =>
    rw [hrun] at houtcome
    cases houtcome
    rfl

theorem Traceless.map {x : Script α} (hx : x.Traceless) (f : α → β) : (f <$> x).Traceless :=
  fun s e t h => hx s e t (run_eq_error_of_map h)

theorem run_drawId_bind (f : Id → Script α) (s : State) :
    (drawId >>= f).run s =
      (f (s.source.ids s.source.drawn)).run
        { s with source := { s.source with drawn := s.source.drawn + 1 } } := rfl

/-- A batch that is refused leaves the state as it was. -/
theorem run_insert_eq_error {batch : List Resource} {s t : State} {e : ApiError}
    (h : (insert batch).run s = (.error e, t)) : t = s ∧ ∃ cause, e = .storeRefused cause := by
  rcases Call.answer_insert s batch with ⟨cause, hanswer⟩ | ⟨u, hanswer, -⟩
  · rw [insert, run_bind, run_ask, hanswer] at h
    cases h
    exact ⟨rfl, cause, rfl⟩
  · rw [insert, run_bind, run_ask, hanswer] at h
    cases h

theorem run_ask_of_answer {c : Call} {reply : c.Reply} {s t : State}
    (h : c.answer s = (reply, t)) : (ask c).run s = (.ok reply, t) := by
  rw [run_ask, h]

/-- A spec is written, or nothing has changed. -/
theorem run_setSpec (r : Resource) (s : State) :
    (setSpec r).run s = (.ok none, s) ∨
      ∃ written t, (setSpec r).run s = (.ok (some written), t) := by
  rcases Call.answer_setSpec s r with ⟨-, hanswer⟩ | ⟨e, t, -, hanswer, -⟩
  · exact .inl (run_ask_of_answer hanswer)
  · exact .inr ⟨_, _, run_ask_of_answer hanswer⟩

/-- A status is written, or nothing has changed. -/
theorem run_setStatus (kind : Kind) (id : Id) (status : Status) (s : State) :
    (setStatus kind id status).run s = (.ok none, s) ∨
      ∃ written t, (setStatus kind id status).run s = (.ok (some written), t) := by
  rcases Call.answer_setStatus s kind id status with ⟨-, hanswer⟩ | ⟨e, t, -, hanswer, -⟩
  · exact .inl (run_ask_of_answer hanswer)
  · exact .inr ⟨_, _, run_ask_of_answer hanswer⟩

/-- A write that fails only where it has written nothing is done as a whole or not at all. -/
theorem atomic_orFail {x : Script (Option Resource)} (e : ApiError)
    (hx : ∀ s, x.run s = (.ok none, s) ∨ ∃ written t, x.run s = (.ok (some written), t)) :
    (x.orFail e).Atomic := by
  intro s e' t h
  unfold orFail at h
  rcases hx s with hnone | ⟨written, u, hsome⟩
  · rw [run_bind, hnone] at h
    cases h
    rfl
  · rw [run_bind, hsome] at h
    cases h

theorem Atomic.traceless {x : Script α} (hx : x.Atomic) : x.Traceless :=
  fun s e t h => .inl (hx s e t h)

end Script

end ClusterRegistry
