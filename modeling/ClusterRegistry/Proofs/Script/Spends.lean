import ClusterRegistry.Proofs.Script.Reads
import ClusterRegistry.Proofs.Store.Writes

/-!
# What becomes of new ids

The store refuses a batch whose ids are missing or taken. Where no id is given out twice this
cannot happen, no matter how many scripts draw ids from the same source: a script inserts
exactly what it has drawn (`Script.Spends`), and an id that one script holds is neither stored
nor held by another one (`State.Accounts`). One step is `State.Accounts.answer`; that a script
which runs alone spends what it draws is `Script.Spends.run`.

Freshness is asked of the ids that were given out and not of all that a source could give: there
are only as many ids as there are 64-bit numbers.
-/

namespace ClusterRegistry

/-! ## Sources of ids -/

namespace IdSource

/-- Whether a source has given out an id. -/
def Gave (src : IdSource) (id : Id) : Prop := ∃ i < src.drawn, src.ids i = id

/-- No id that was given out is missing, that is zero, and none was given out twice. -/
def Fresh (src : IdSource) : Prop :=
  ∀ i < src.drawn, (src.ids i).isAssigned = true ∧ ∀ j < i, src.ids j ≠ src.ids i

instance (src : IdSource) : Decidable src.Fresh :=
  inferInstanceAs (Decidable (∀ i < src.drawn,
    (src.ids i).isAssigned = true ∧ ∀ j < i, src.ids j ≠ src.ids i))

/-- A source after more ids were drawn from it. -/
def Leads (src later : IdSource) : Prop := later.ids = src.ids ∧ src.drawn ≤ later.drawn

variable {src later last : IdSource} {id : Id}

theorem Leads.refl (src : IdSource) : src.Leads src := ⟨rfl, Nat.le_refl _⟩

theorem Leads.trans (h : src.Leads later) (h' : later.Leads last) : src.Leads last :=
  ⟨h'.1.trans h.1, Nat.le_trans h.2 h'.2⟩

/-- Ids that are fresh in the end were fresh all along. -/
theorem Fresh.of_leads (h : later.Fresh) (hleads : src.Leads later) : src.Fresh := by
  intro i hi
  obtain ⟨hassigned, hdistinct⟩ := h i (Nat.lt_of_lt_of_le hi hleads.2)
  rw [hleads.1] at hassigned hdistinct
  exact ⟨hassigned, hdistinct⟩

theorem Fresh.isAssigned (h : src.Fresh) (hid : src.Gave id) : id.isAssigned = true := by
  obtain ⟨i, hi, rfl⟩ := hid
  exact (h i hi).1

theorem Gave.of_leads (h : src.Gave id) (hleads : src.Leads later) : later.Gave id := by
  obtain ⟨i, hi, rfl⟩ := h
  exact ⟨i, Nat.lt_of_lt_of_le hi hleads.2, by rw [hleads.1]⟩

end IdSource

/-- A call draws from the source or leaves it alone. -/
theorem Call.source_answer (c : Call) (s : State) : s.source.Leads (c.answer s).2.source := by
  cases c with
  | get kind id => exact .refl _
  | list kind filter => exact .refl _
  | drawId => exact ⟨rfl, Nat.le_succ _⟩
  | insert batch =>
    rcases Call.answer_insert s batch with ⟨e, h⟩ | ⟨t, h, -⟩ <;> rw [h] <;> exact .refl _
  | setSpec r =>
    rcases Call.answer_setSpec s r with ⟨-, h⟩ | ⟨e, t, -, h, -⟩ <;> rw [h] <;> exact .refl _
  | setStatus kind id status =>
    rcases Call.answer_setStatus s kind id status with ⟨-, h⟩ | ⟨e, t, -, h, -⟩ <;> rw [h] <;>
      exact .refl _

theorem Script.source_run {α : Type} (x : Script α) (s : State) :
    s.source.Leads (x.run s).2.source := by
  induction x generalizing s with
  | done a => exact .refl _
  | fail e => exact .refl _
  | call c next ih => exact (Call.source_answer c s).trans (ih _ _)

/-! ## Calls -/

namespace Call

/-- A batch that is inserted has the ids that are held. -/
def Spends (held : List Id) : Call → Prop
  | insert batch => batch.map (·.id) = held
  | _ => True

/-- The ids that are held after a call. -/
def heldAfter (held : List Id) : (c : Call) → c.Reply → List Id
  | drawId, (id : Id) => held ++ [id]
  | insert _, _ => []
  | _, _ => held

/-- Whether a call was not refused. -/
def Accepted : (c : Call) → c.Reply → Prop
  | insert _, reply => reply = .ok ()
  | _, _ => True

end Call

/-- What one script holds and what others hold was drawn and is not stored; nothing is held
twice; and all that is stored was drawn. -/
structure State.Accounts (s : State) (held : List Id) (others : Id → Prop) : Prop where
  distinct : held.Nodup
  drawn : ∀ id, id ∈ held ∨ others id → s.source.Gave id
  apart : ∀ id ∈ held, ¬ others id
  stored : ∀ a, (s.store.at? a).isSome = true →
    s.source.Gave a.id ∧ a.id ∉ held ∧ ¬ others a.id

namespace State.Accounts

variable {s : State} {held : List Id} {others : Id → Prop} {c : Call}

/-- Accounts depend on a store through its addresses alone, which are the same after an entry
was replaced. -/
theorem of_replaced (h : s.Accounts held others) {t : Store} {a : Address} {e e' : Entry}
    (he : s.store.at? a = some e)
    (ht : ∀ b, t.at? b = if b = a then some e' else s.store.at? b) :
    State.Accounts { s with store := t } held others :=
  ⟨h.distinct, h.drawn, h.apart, fun b hb => h.stored b (Store.isSome_of_replaced he ht hb)⟩

/-- What is held may be given up. -/
theorem release (h : s.Accounts held others) : s.Accounts [] others :=
  ⟨List.nodup_nil, fun id hid => h.drawn id (.inr (hid.resolve_left List.not_mem_nil)),
    fun _ hid => absurd hid List.not_mem_nil,
    fun a ha => ⟨(h.stored a ha).1, List.not_mem_nil, (h.stored a ha).2.2⟩⟩

/-- Accounts are in order if others hold less. -/
theorem imp (h : s.Accounts held others) {fewer : Id → Prop} (hfewer : ∀ id, fewer id → others id) :
    s.Accounts held fewer :=
  ⟨h.distinct, fun id hid => h.drawn id (hid.imp_right (hfewer id)),
    fun id hid hothers => h.apart id hid (hfewer id hothers),
    fun a ha => ⟨(h.stored a ha).1, (h.stored a ha).2.1,
      fun hothers => (h.stored a ha).2.2 (hfewer a.id hothers)⟩⟩

/-- A new id is held from now on. -/
theorem answer_drawId (h : s.Accounts held others)
    (hfresh : (Call.drawId.answer s).2.source.Fresh) :
    (Call.drawId.answer s).2.Accounts (held ++ [s.source.ids s.source.drawn]) others := by
  have hleads : s.source.Leads (Call.drawId.answer s).2.source := Call.source_answer .drawId s
  -- no id that was given out earlier is the new one
  have hnew : ∀ id, s.source.Gave id → id ≠ s.source.ids s.source.drawn := by
    rintro id ⟨j, hj, rfl⟩
    exact (hfresh s.source.drawn (Nat.lt_succ_self _)).2 j hj
  have hmem : ∀ id, id ∈ held ++ [s.source.ids s.source.drawn] ↔
      id ∈ held ∨ id = s.source.ids s.source.drawn := by simp
  refine ⟨?_, ?_, ?_, ?_⟩
  · rw [List.nodup_append]
    refine ⟨h.distinct, List.pairwise_singleton _ _, fun id hid new hnewMem => ?_⟩
    rw [List.mem_singleton.mp hnewMem]
    exact hnew id (h.drawn id (.inl hid))
  · intro id hid
    rw [hmem] at hid
    rcases hid with (hid | rfl) | hid
    · exact (h.drawn id (.inl hid)).of_leads hleads
    · exact ⟨s.source.drawn, Nat.lt_succ_self _, rfl⟩
    · exact (h.drawn id (.inr hid)).of_leads hleads
  · intro id hid hothers
    rw [hmem] at hid
    rcases hid with hid | rfl
    · exact h.apart id hid hothers
    · exact hnew _ (h.drawn _ (.inr hothers)) rfl
  · intro a ha
    obtain ⟨hstored, hheld, hothers⟩ := h.stored a ha
    refine ⟨hstored.of_leads hleads, fun hid => ?_, hothers⟩
    rw [hmem] at hid
    exact hid.elim hheld (hnew a.id hstored)

/-- A batch of the ids that are held is accepted, and none of them is held any longer. -/
theorem answer_insert (h : s.Accounts held others) {batch : List Resource}
    (hbatch : batch.map (·.id) = held) (hfresh : s.source.Fresh) :
    ((Call.insert batch).answer s).1 = .ok () ∧
      ((Call.insert batch).answer s).2.Accounts [] others := by
  have hheld : ∀ r ∈ batch, r.id ∈ held := fun r hr =>
    hbatch ▸ List.mem_map.mpr ⟨r, hr, rfl⟩
  have hassigned : ∀ r ∈ batch, r.id.isAssigned = true := fun r hr =>
    hfresh.isAssigned (h.drawn r.id (.inl (hheld r hr)))
  have hfree : ∀ r ∈ batch, s.store.at? r.address = none := by
    intro r hr
    cases he : s.store.at? r.address with
    | none => rfl
    | some e => exact absurd (hheld r hr) (h.stored r.address (by rw [he]; rfl)).2.1
  -- so there is nothing for which the store could refuse the batch
  obtain ⟨t, ht⟩ := Store.insert_of_free hassigned hfree (hbatch ▸ h.distinct)
  have hanswer : (Call.insert batch).answer s = (.ok (), { s with store := t }) := by
    simp only [Call.answer, ht]
  rw [hanswer]
  refine ⟨rfl, List.nodup_nil, h.release.drawn, h.release.apart, fun a ha => ?_⟩
  rcases ((Store.inserted_of_insert ht).at?_isSome_iff a).mp ha with hs | hmem
  · exact ⟨(h.stored a hs).1, List.not_mem_nil, (h.stored a hs).2.2⟩
  · obtain ⟨r, hr, rfl⟩ := List.mem_map.mp hmem
    exact ⟨h.drawn r.id (.inl (hheld r hr)), List.not_mem_nil, h.apart r.id (hheld r hr)⟩

/-- With fresh ids a call that spends what is held is accepted, and the accounts are in order
again. -/
theorem answer (h : s.Accounts held others) (hc : c.Spends held)
    (hfresh : (c.answer s).2.source.Fresh) :
    c.Accepted (c.answer s).1 ∧
      (c.answer s).2.Accounts (c.heldAfter held (c.answer s).1) others := by
  cases c with
  | get kind id => exact ⟨trivial, h⟩
  | list kind filter => exact ⟨trivial, h⟩
  | drawId => exact ⟨trivial, h.answer_drawId hfresh⟩
  | insert batch =>
    exact h.answer_insert hc (hfresh.of_leads (Call.source_answer (.insert batch) s))
  | setSpec r =>
    refine ⟨trivial, ?_⟩
    rcases Call.answer_setSpec s r with ⟨-, hanswer⟩ | ⟨e, t, he, hanswer, ht⟩
    · rw [hanswer]
      exact h
    · rw [hanswer]
      exact h.of_replaced he ht
  | setStatus kind id status =>
    refine ⟨trivial, ?_⟩
    rcases Call.answer_setStatus s kind id status with ⟨-, hanswer⟩ | ⟨e, t, he, hanswer, ht⟩
    · rw [hanswer]
      exact h
    · rw [hanswer]
      exact h.of_replaced he ht

end State.Accounts

/-! ## Scripts -/

namespace Script

variable {α β : Type} {P : Except ApiError α → List Id → Prop}
  {Q : Except ApiError β → List Id → Prop} {held : List Id}

/-- A script inserts exactly the ids that it holds, as long as it is not refused; and `post` holds
of its outcome and of what it holds in the end. -/
def Spends (post : Except ApiError α → List Id → Prop) : Script α → List Id → Prop
  | .done a, held => post (.ok a) held
  | .fail e, held => post (.error e) held
  | .call c next, held => c.Spends held ∧ ∀ reply, c.Accepted reply →
      (next reply).Spends post (c.heldAfter held reply)

/-- A script that spends what it holds and fails only if it is refused. -/
abbrev Succeeds (post : α → List Id → Prop) : Script α → List Id → Prop :=
  Spends fun outcome held => ∃ a, outcome = .ok a ∧ post a held

theorem Spends.bind {x : Script α} {f : α → Script β} (hx : x.Spends P held)
    (hok : ∀ a after, P (.ok a) after → (f a).Spends Q after)
    (herror : ∀ e after, P (.error e) after → Q (.error e) after) : (x >>= f).Spends Q held := by
  change (x.bind f).Spends Q held
  induction x generalizing held with
  | done a => exact hok a held hx
  | fail e => exact herror e held hx
  | call c next ih => exact ⟨hx.1, fun reply haccepted => ih reply (hx.2 reply haccepted)⟩

/-- A script goes on after one that fails only if it is refused. -/
theorem Succeeds.bind {x : Script α} {f : α → Script β} {R : α → List Id → Prop}
    (hx : x.Succeeds R held) (hf : ∀ a after, R a after → (f a).Spends Q after) :
    (x >>= f).Spends Q held := by
  refine Spends.bind hx (fun a after h => ?_) (fun e after h => ?_)
  · obtain ⟨a', heq, ha⟩ := h
    cases heq
    exact hf a after ha
  · obtain ⟨a', heq, -⟩ := h
    cases heq

/-- What a script spends does not depend on the form in which it answers. -/
theorem Spends.map {x : Script α} (hx : x.Spends P held) (g : α → β) :
    (g <$> x).Spends (fun _ _ => True) held := by
  rw [← bind_pure_comp]
  exact hx.bind (fun _ _ _ => trivial) fun _ _ _ => trivial

theorem Spends.orFail {x : Script (Option Resource)}
    {P : Except ApiError (Option Resource) → List Id → Prop} (hx : x.Spends P held)
    (e : ApiError) : (x.orFail e).Spends (fun _ _ => True) held := by
  apply hx.bind
  · intro found _ _
    cases found <;> trivial
  · intro _ _ _
    trivial

theorem succeeds_pure {R : α → List Id → Prop} {a : α} (h : R a held) :
    (pure a : Script α).Succeeds R held := ⟨a, rfl, h⟩

theorem succeeds_drawId : drawId.Succeeds (fun id after => after = held ++ [id]) held :=
  ⟨trivial, fun id _ => ⟨id, rfl, rfl⟩⟩

/-- Inserting the ids that are held. -/
theorem succeeds_insert {batch : List Resource} (h : batch.map (·.id) = held) :
    (insert batch).Succeeds (fun _ after => after = []) held := by
  refine ⟨h, fun reply haccepted => ?_⟩
  have hok : reply = .ok () := haccepted
  subst hok
  exact ⟨(), rfl, rfl⟩

theorem succeeds_setSpec (r : Resource) :
    (setSpec r).Succeeds (fun _ after => after = held) held :=
  ⟨trivial, fun found _ => ⟨found, rfl, rfl⟩⟩

theorem succeeds_setStatus (kind : Kind) (id : Id) (status : Status) :
    (setStatus kind id status).Succeeds (fun _ after => after = held) held :=
  ⟨trivial, fun found _ => ⟨found, rfl, rfl⟩⟩

/-- As long as a script reads it holds what it held. -/
theorem ReadsThen.spends {x : Script α} {final : Script α → Prop} (hx : x.ReadsThen final)
    (hfinal : ∀ y, final y → y.Spends P held) (herror : ∀ e, P (.error e) held) :
    x.Spends P held := by
  induction x with
  | done a => exact hfinal _ hx
  | fail e => exact herror e
  | call c next ih =>
    rcases hx with hend | ⟨hreads, hnext⟩
    · exact hfinal _ hend
    · cases c with
      | get kind id => exact ⟨trivial, fun reply _ => ih reply (hnext reply)⟩
      | list kind filter => exact ⟨trivial, fun reply _ => ih reply (hnext reply)⟩
      | drawId => cases hreads
      | insert batch => cases hreads
      | setSpec r => cases hreads
      | setStatus kind id status => cases hreads

/-- A script that runs alone with fresh ids leaves the accounts in order. -/
theorem Spends.run {x : Script α} (hx : x.Spends P held) {s : State} {others : Id → Prop}
    (hs : s.Accounts held others) (hfresh : (x.run s).2.source.Fresh) :
    ∃ after, (x.run s).2.Accounts after others ∧ P (x.run s).1 after := by
  induction x generalizing s held with
  | done a => exact ⟨held, hs, hx⟩
  | fail e => exact ⟨held, hs, hx⟩
  | call c next ih =>
    have hstep : (c.answer s).2.source.Fresh := hfresh.of_leads (source_run _ _)
    obtain ⟨haccepted, hafter⟩ := hs.answer hx.1 hstep
    exact ih _ (hx.2 _ haccepted) hafter hfresh

end Script

end ClusterRegistry
