import ClusterRegistry.Proofs.Script.Contract

/-!
# Stores without time stamps

The time at which a resource was created is stamped into it and never looked at again. Leaving
all stamps out of a store (`Store.unstamped`) therefore commutes with everything that scripts do:
a script that is run on a store without stamps comes to the same end, up to the stamps
(`Script.Unstamps`).
-/

namespace ClusterRegistry

namespace Table

variable {κ : Type} [Ord κ] {α β : Type}

theorem get?_mapValues (t : Table κ α) (f : α → β) (k : κ) :
    (t.mapValues fun _ => f).get? k = (t.get? k).map f := by
  have hlookup : ∀ l : List (κ × α),
      lookup k (l.map fun e => (e.1, f e.2)) = (lookup k l).map f := by
    intro l
    induction l with
    | nil => rfl
    | cons e rest ih =>
      rw [List.map_cons, lookup, lookup, ih]
      split <;> rfl
  exact hlookup t.entries

/-- Changing all values after one was put, and before. -/
theorem mapValues_insert [Std.TransOrd κ] (t : Table κ α) (f : α → β) (k : κ) (v : α) :
    (t.insert k v).mapValues (fun _ => f) = (t.mapValues fun _ => f).insert k (f v) := by
  have hput : ∀ l : List (κ × α),
      (put k v l).map (fun e => (e.1, f e.2)) = put k (f v) (l.map fun e => (e.1, f e.2)) := by
    intro l
    induction l with
    | nil => rfl
    | cons e rest ih =>
      rw [List.map_cons, put, put]
      cases compare k e.1 with
      | lt => rfl
      | eq => rfl
      | gt => rw [List.map_cons, ih]
  exact ext (hput t.entries)

end Table

/-! ## Leaving stamps out -/

/-- A resource without the time at which it was created. -/
def Resource.unstamped (r : Resource) : Resource := r.mapMeta fun m => { m with createdAt := "" }

/-- An entry without the time at which its resource was created. -/
def Entry.unstamped (e : Entry) : Entry := ⟨e.resource.unstamped, e.parents⟩

/-- A store without the times at which its resources were created. -/
def Store.unstamped (s : Store) : Store := ⟨s.table.mapValues fun _ => Entry.unstamped⟩

/-- A state without the times at which its resources were created. -/
def State.unstamped (s : State) : State := { s with store := s.store.unstamped }

namespace Store

theorem get?_unstamped (s : Store) (kind : Kind) (id : Id) :
    s.unstamped.get? kind id = (s.get? kind id).map Resource.unstamped := by
  unfold get? unstamped
  rw [Table.get?_mapValues, Option.map_map, Option.map_map]
  rfl

theorem list_unstamped (s : Store) (kind : Kind) (filter : Filter) :
    s.unstamped.list kind filter = (s.list kind filter).map Resource.unstamped := by
  unfold list unstamped Table.mapValues
  rw [List.filter_map, List.map_map, List.map_map]
  rfl

theorem put_unstamped (s : Store) (r : Resource) :
    s.unstamped.put r.unstamped = (s.put r).unstamped := by
  unfold put unstamped
  rw [Table.mapValues_insert]
  rfl

theorem foldl_put_unstamped (s : Store) (batch : List Resource) :
    (batch.map Resource.unstamped).foldl put s.unstamped = (batch.foldl put s).unstamped := by
  induction batch generalizing s with
  | nil => rfl
  | cons r rest ih => rw [List.map_cons, List.foldl_cons, put_unstamped, ih, List.foldl_cons]

theorem refusal_unstamped (s : Store) (earlier : List Id) (batch : List Resource) :
    s.unstamped.refusal earlier (batch.map Resource.unstamped) = s.refusal earlier batch := by
  induction batch generalizing earlier with
  | nil => rfl
  | cons r rest ih =>
    have hstored : (s.unstamped.get? r.kind r.id).isSome = (s.get? r.kind r.id).isSome := by
      rw [get?_unstamped, Option.isSome_map]
    -- whether an id is assigned or occurred before has nothing to do with stamps
    have hrest : s.unstamped.refusal (r.id :: earlier) (rest.map Resource.unstamped) =
        s.refusal (r.id :: earlier) rest := ih _
    rw [refusal, ← hstored, ← hrest]
    rfl

theorem insert_unstamped (s : Store) (batch : List Resource) :
    s.unstamped.insert (batch.map Resource.unstamped) = (s.insert batch).map unstamped := by
  unfold insert
  rw [refusal_unstamped, foldl_put_unstamped]
  split <;> rfl

theorem setSpec_unstamped (s : Store) (r : Resource) :
    s.unstamped.setSpec r.unstamped =
      (s.setSpec r).map (Prod.map Resource.unstamped unstamped) := by
  have hstored : s.unstamped.get? r.unstamped.kind r.unstamped.id =
      (s.get? r.kind r.id).map Resource.unstamped := s.get?_unstamped r.kind r.id
  rw [setSpec, setSpec, hstored, Option.map_map, Option.map_map]
  refine congrArg (Option.map · (s.get? r.kind r.id)) (funext fun stored => ?_)
  exact Prod.ext rfl (s.put_unstamped (r.withStatus stored.status))

theorem setStatus_unstamped (s : Store) (kind : Kind) (id : Id) (status : Status) :
    s.unstamped.setStatus kind id status =
      (s.setStatus kind id status).map (Prod.map Resource.unstamped unstamped) := by
  unfold setStatus
  have hstored : s.unstamped.table.get? ⟨kind, id⟩ =
      (s.table.get? ⟨kind, id⟩).map Entry.unstamped := Table.get?_mapValues _ _ _
  rw [hstored, Option.map_map, Option.map_map]
  refine congrArg (Option.map · (s.table.get? ⟨kind, id⟩)) (funext fun e => Prod.ext rfl ?_)
  have hinsert := Table.mapValues_insert s.table Entry.unstamped ⟨kind, id⟩
    ⟨e.resource.withStatus status, e.parents⟩
  exact congrArg Store.mk hinsert.symm

end Store

/-! ## Scripts -/

namespace Script

variable {α β γ δ : Type} {f : α → β} {g : γ → δ}

/-- Of two scripts the second does without stamps what the first does with them. -/
def Unstamps (f : α → β) (x : Script α) (y : Script β) : Prop :=
  ∀ s : State, y.run s.unstamped = ((x.run s).1.map f, (x.run s).2.unstamped)

theorem unstamps_pure {a : α} {b : β} (h : f a = b) : (pure a : Script α).Unstamps f (pure b) := by
  intro s
  rw [← h]
  rfl

theorem unstamps_fail (e : ApiError) : (Script.fail e : Script α).Unstamps f (.fail e) :=
  fun _ => rfl

theorem unstamps_ofExcept {x : Except ApiError α} {y : Except ApiError β} (h : x.map f = y) :
    (ofExcept x).Unstamps f (ofExcept y) := by
  intro s
  rw [run_ofExcept, run_ofExcept, h]

/-- A step that looks at no resource. -/
theorem unstamps_step (x : Except ApiError α) :
    (ofExcept x).Unstamps (fun a => a) (ofExcept x) :=
  unstamps_ofExcept (congrFun Except.map_id x)

theorem Unstamps.bind {x : Script α} {y : Script β} {k : α → Script γ} {l : β → Script δ}
    (hx : x.Unstamps f y) (hk : ∀ a, (k a).Unstamps g (l (f a))) :
    (x >>= k).Unstamps g (y >>= l) := by
  intro s
  rw [run_bind, run_bind, hx s]
  obtain ⟨outcome, t⟩ := x.run s
  cases outcome with
  | ok a => exact hk a t
  | error e => rfl

theorem Unstamps.map {x : Script α} {y : Script β} (hx : x.Unstamps f y) (g : γ → δ)
    {k : α → γ} {l : β → δ} (h : ∀ a, g (k a) = l (f a)) : (k <$> x).Unstamps g (l <$> y) := by
  rw [← bind_pure_comp, ← bind_pure_comp]
  exact hx.bind fun a => unstamps_pure (h a)

theorem Unstamps.orFail {f : Resource → Resource} {x y : Script (Option Resource)}
    (hx : x.Unstamps (Option.map f) y) (e : ApiError) :
    (x.orFail e).Unstamps f (y.orFail e) := by
  apply hx.bind
  intro found
  cases found with
  | some r => exact unstamps_pure rfl
  | none => exact unstamps_fail e

theorem unstamps_get? (kind : Kind) (id : Id) :
    (get? kind id).Unstamps (Option.map Resource.unstamped) (get? kind id) := by
  intro s
  exact Prod.ext (congrArg Except.ok (s.store.get?_unstamped kind id)) rfl

theorem unstamps_list (kind : Kind) (filter : Filter) :
    (list kind filter).Unstamps (List.map Resource.unstamped) (list kind filter) := by
  intro s
  exact Prod.ext (congrArg Except.ok (s.store.list_unstamped kind filter)) rfl

theorem unstamps_drawId : drawId.Unstamps id drawId := fun _ => rfl

theorem unstamps_insert (batch : List Resource) :
    (insert batch).Unstamps id (insert (batch.map Resource.unstamped)) := by
  intro s
  have hanswer : (Call.insert (batch.map Resource.unstamped)).answer s.unstamped =
      (((Call.insert batch).answer s).1, ((Call.insert batch).answer s).2.unstamped) := by
    simp only [Call.answer, State.unstamped, Store.insert_unstamped]
    cases s.store.insert batch <;> rfl
  rw [insert, run_bind, run_ask, hanswer, insert, run_bind, run_ask]
  cases ((Call.insert batch).answer s).1 <;> rfl

theorem unstamps_setSpec (r : Resource) :
    (setSpec r).Unstamps (Option.map Resource.unstamped) (setSpec r.unstamped) := by
  intro s
  have hanswer : (Call.setSpec r.unstamped).answer s.unstamped =
      (((Call.setSpec r).answer s).1.map Resource.unstamped,
        ((Call.setSpec r).answer s).2.unstamped) := by
    simp only [Call.answer, State.unstamped, Store.setSpec_unstamped]
    cases s.store.setSpec r <;> rfl
  exact congrArg (fun p : Option Resource × State => (Except.ok p.1, p.2)) hanswer

theorem unstamps_setStatus (kind : Kind) (id : Id) (status : Status) :
    (setStatus kind id status).Unstamps (Option.map Resource.unstamped)
      (setStatus kind id status) := by
  intro s
  have hanswer : (Call.setStatus kind id status).answer s.unstamped =
      (((Call.setStatus kind id status).answer s).1.map Resource.unstamped,
        ((Call.setStatus kind id status).answer s).2.unstamped) := by
    simp only [Call.answer, State.unstamped, Store.setStatus_unstamped]
    cases s.store.setStatus kind id status <;> rfl
  exact congrArg (fun p : Option Resource × State => (Except.ok p.1, p.2)) hanswer

end Script

end ClusterRegistry
