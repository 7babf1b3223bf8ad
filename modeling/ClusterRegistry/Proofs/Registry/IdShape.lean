import ClusterRegistry.Proofs.Registry.Outcome
import ClusterRegistry.Proofs.Script.Ends

/-!
# What the form of an id decides

Seven requests look for a resource by a text in their path (`Request.addressed?`), and each of them
reads this text before it does anything else. Nothing that it does afterwards fails for the same
reason (`Registry.readsId_serve`), so a request fails as not numeric exactly if the text is not all
digits. Digits lead to at most one resource, whatever zeros they start with, and those that lead to
none are answered as not found, also where no number that large can be an id
(`Registry.idForm_decides`).
-/

namespace ClusterRegistry

open Script

/-- The kind and the text by which a request looks for a resource, if it looks for one. -/
def Request.addressed? : Request → Option (Kind × String)
  | .update kind rawId _ => some (kind, rawId)
  | .setStatus kind rawId _ => some (kind, rawId)
  | .get kind rawId => some (kind, rawId)
  | .listUnder _ parent rawParentId => some (parent, rawParentId)
  | .describe kind rawId => some (kind, rawId)
  | .planReplicas rawId => some (.horizontalScaling, rawId)
  | .recommendResources rawId => some (.verticalScaling, rawId)
  | _ => none

/-- Whether a request needs the resource that it looks for, and is in order as far as it is read
before the resource is. -/
inductive Request.Needs : Kind → String → Request → Prop
  | get (kind : Kind) (rawId : String) : Needs kind rawId (.get kind rawId)
  | update (kind : Kind) (rawId : String) (payload : Json.Payload) :
    Needs kind rawId (.update kind rawId payload)
  | setStatus (kind : Kind) (rawId : String) (payload : Json.Payload) (status : Status)
    (hstatus : StatusUpdate.shape.ofPayload payload = .ok ⟨status⟩) (hphase : status.phase ≠ "") :
    Needs kind rawId (.setStatus kind rawId payload)
  | describe (kind : Kind) (rawId : String) : Needs kind rawId (.describe kind rawId)
  | planReplicas (rawId : String) : Needs .horizontalScaling rawId (.planReplicas rawId)
  | recommendResources (rawId : String) : Needs .verticalScaling rawId (.recommendResources rawId)

/-- A resource is stored under the value of some digits, which is one that an id can have. -/
def Store.Under (s : Store) (kind : Kind) (raw : String) (r : Resource) : Prop :=
  1 ≤ Id.valueOf raw ∧ Id.valueOf raw < UInt64.size ∧ s.get? kind ⟨.ofNat (Id.valueOf raw)⟩ = some r

/-- Whether a failure is another one than that an id or an account is not numeric. -/
def ApiError.NotOfForm (e : ApiError) : Prop := e.category ≠ .mustBeNumeric

namespace Registry

variable (reg : Registry) {s : State} {request : Request} {kind : Kind} {raw : String}
  {r : Resource}

/-! ## After the id -/

theorem ends_fetch (kind : Kind) (id : Id) :
    (fetch kind id).Ends (fun _ => True) ApiError.NotOfForm :=
  (ends_ask (.get kind id)).orFail nofun

theorem ends_mapError {ε α : Type} (x : Except ε α) (tell : ε → ApiError)
    (h : ∀ cause, (tell cause).NotOfForm) :
    (ofExcept (x.mapError tell)).Ends (fun _ => True) ApiError.NotOfForm := by
  cases x with
  | ok a => exact ends_pure trivial
  | error cause => exact ends_fail (h cause)

theorem ends_check (r : Resource) (limit : UInt32) :
    (ofExcept (r.check limit)).Ends (fun _ => True) ApiError.NotOfForm := by
  unfold Resource.check
  split
  · exact ends_pure trivial
  · exact ends_fail nofun

/-- What refers to something that is not there is answered in a way of its own. -/
theorem ends_resolving (r : Resource) : (resolved r).Ends (fun _ => True) ApiError.NotOfForm := by
  refine (ends_resolved r).imp (fun _ h => h) fun e he hform => ?_
  have hcategory : ErrorCategory.badRequest = .mustBeNumeric := he.symm.trans hform
  cases hcategory

theorem ends_factoryOf (policy : Resource) :
    (factoryOf policy).Ends (fun _ => True) ApiError.NotOfForm := by
  unfold factoryOf
  split
  · exact ends_fail nofun
  · exact ends_fetch _ _

/-! ## The id first -/

/-- A text in a path is no numeral, or its value is one that an id can have, or not. -/
theorem pathId_cases (kind : Kind) (raw : String) :
    (Id.isNumeral raw = false ∧ pathId kind raw = .error (.idNotNumeric raw)) ∨
    (Id.isNumeral raw = true ∧
      ((1 ≤ Id.valueOf raw ∧ Id.valueOf raw < UInt64.size) ∧
          pathId kind raw = .ok ⟨.ofNat (Id.valueOf raw)⟩ ∨
        ¬(1 ≤ Id.valueOf raw ∧ Id.valueOf raw < UInt64.size) ∧
          pathId kind raw = .error (.unassignable kind raw))) := by
  cases hnumeral : Id.isNumeral raw with
  | false =>
    refine .inl ⟨rfl, ?_⟩
    rw [pathId, Id.parse, hnumeral, if_neg Bool.false_ne_true]
  | true =>
    refine .inr ⟨rfl, ?_⟩
    by_cases hvalue : 1 ≤ Id.valueOf raw ∧ Id.valueOf raw < UInt64.size
    · have hread : Id.parse raw = .assigned ⟨.ofNat (Id.valueOf raw)⟩ :=
        (if_pos hnumeral).trans (if_pos hvalue)
      exact .inl ⟨hvalue, by rw [pathId, hread]⟩
    · have hread : Id.parse raw = .unassignable := (if_pos hnumeral).trans (if_neg hvalue)
      exact .inr ⟨hvalue, by rw [pathId, hread]⟩

/-- A script reads an id in a path before it does anything else, and fails for the form of a text at
no later time. -/
def ReadsId {α : Type} (kind : Kind) (raw : String) (x : Script α) : Prop :=
  ∃ rest : Id → Script α, x = ofExcept (pathId kind raw) >>= rest ∧
    ∀ id, (rest id).Ends (fun _ => True) ApiError.NotOfForm

section

variable {α β : Type} {x : Script α}

theorem ReadsId.bind {f : α → Script β} (hx : ReadsId kind raw x)
    (hf : ∀ a, (f a).Ends (fun _ => True) ApiError.NotOfForm) : ReadsId kind raw (x >>= f) := by
  obtain ⟨rest, rfl, hrest⟩ := hx
  exact ⟨fun id => rest id >>= f, bind_assoc _ _ _, fun id => (hrest id).bind fun a _ => hf a⟩

theorem ReadsId.map (hx : ReadsId kind raw x) (g : α → β) : ReadsId kind raw (g <$> x) := by
  rw [← bind_pure_comp]
  exact hx.bind fun a => ends_pure trivial

/-- A text that is read as an id leaves the failure, if there is one, to what comes after it, and
any other text is the failure. -/
theorem ReadsId.failsOfForm_iff (hx : ReadsId kind raw x) (s : State) :
    (∃ e, (x.run s).1 = .error e ∧ e.category = .mustBeNumeric) ↔ Id.isNumeral raw = false := by
  obtain ⟨rest, rfl, hrest⟩ := hx
  rcases pathId_cases kind raw with ⟨hnumeral, hid⟩ | ⟨hnumeral, ⟨-, hid⟩ | ⟨-, hid⟩⟩
  · rw [hid, hnumeral]
    exact iff_of_true ⟨_, rfl, rfl⟩ rfl
  · rw [hid, hnumeral]
    refine iff_of_false ?_ nofun
    rintro ⟨e, he, hform⟩
    exact (hrest _).error_of_run (Prod.ext he rfl) hform
  · rw [hid, hnumeral]
    refine iff_of_false ?_ nofun
    rintro ⟨e, he, hform⟩
    cases he
    cases hform

end

theorem readsId_get (kind : Kind) (raw : String) : ReadsId kind raw (get kind raw) :=
  ⟨_, rfl, ends_fetch kind⟩

theorem readsId_update (kind : Kind) (raw : String) (payload : Json.Payload) :
    ReadsId kind raw (reg.update kind raw payload) := by
  refine ⟨_, rfl, fun id => ?_⟩
  apply (ends_fetch kind id).bind
  intro stored _
  apply (ends_mapError (Resource.ofPayload kind payload) .malformedBody fun _ => nofun).bind
  intro sent _
  apply (ends_check _ _).bind
  intro _ _
  apply (ends_resolving _).bind
  intro admitted _
  exact (ends_ask (.setSpec _)).orFail nofun

theorem readsId_setStatus (kind : Kind) (raw : String) (payload : Json.Payload) :
    ReadsId kind raw (setStatus kind raw payload) := by
  refine ⟨_, rfl, fun id => ?_⟩
  apply (ends_mapError (StatusUpdate.shape.ofPayload payload) .malformedBody fun _ => nofun).bind
  intro update _
  split
  · exact ends_fail nofun
  · exact (ends_ask (.setStatus _ _ _)).orFail nofun

theorem readsId_listUnder (kind parent : Kind) (raw : String) :
    ReadsId parent raw (reg.listUnder kind parent raw) := by
  refine ⟨_, rfl, fun id => ?_⟩
  apply (ends_ask (.list kind _)).bind
  intro items _
  unfold nonemptyList
  split
  · exact ends_fail nofun
  · exact ends_pure trivial

theorem readsId_describe (kind : Kind) (raw : String) :
    ReadsId kind raw (reg.describe kind raw) := by
  apply (readsId_get kind raw).bind
  intro r
  split
  · exact (ends_ask (.list _ _)).bind fun _ _ => ends_pure trivial
  · exact ends_fail nofun

theorem readsId_planReplicas (raw : String) :
    ReadsId .horizontalScaling raw (planReplicas raw) := by
  apply (readsId_get .horizontalScaling raw).bind
  intro policy
  apply (ends_factoryOf policy).bind
  intro factory _
  apply (ends_ask (.list .assembly _)).bind
  intro assemblies _
  split
  · exact ends_pure trivial
  · exact ends_fail nofun

theorem readsId_recommendResources (raw : String) :
    ReadsId .verticalScaling raw (reg.recommendResources raw) := by
  apply (readsId_get .verticalScaling raw).bind
  intro policy
  apply (ends_factoryOf policy).bind
  intro factory _
  apply (ends_mapError (reg.metrics factory.id) (.metricsFailed policy.id) fun _ => nofun).bind
  intro usage _
  split
  · exact ends_pure trivial
  · exact ends_fail nofun

/-- A request that looks for a resource reads its id first. -/
theorem readsId_serve (h : request.addressed? = some (kind, raw)) :
    ReadsId kind raw (reg.serve request) := by
  cases request with
  | update kind' rawId payload =>
    cases h
    exact (reg.readsId_update kind raw payload).map _
  | setStatus kind' rawId payload =>
    cases h
    exact (readsId_setStatus kind raw payload).map _
  | get kind' rawId =>
    cases h
    exact (readsId_get kind raw).map _
  | listUnder kind' parent rawParentId =>
    cases h
    exact (reg.readsId_listUnder kind' kind raw).map _
  | describe kind' rawId =>
    cases h
    exact (reg.readsId_describe kind raw).map _
  | planReplicas rawId =>
    cases h
    exact (readsId_planReplicas raw).map _
  | recommendResources rawId =>
    cases h
    exact (reg.readsId_recommendResources raw).map _
  | _ => cases h

/-! ## What digits lead to -/

theorem run_get_eq_ok_iff (hnumeral : Id.isNumeral raw = true) :
    ((get kind raw).run s).1 = .ok r ↔ s.store.Under kind raw r := by
  rcases pathId_cases kind raw with ⟨hnot, -⟩ | ⟨-, ⟨hvalue, hid⟩ | ⟨hvalue, hid⟩⟩
  · rw [hnumeral] at hnot
    cases hnot
  · have hfetch : (get kind raw).run s = (fetch kind ⟨.ofNat (Id.valueOf raw)⟩).run s := by
      rw [get, hid]
      rfl
    rw [hfetch, Store.Under, ← and_assoc, and_iff_right hvalue]
    cases hr : s.store.get? kind ⟨.ofNat (Id.valueOf raw)⟩ with
    | none =>
      rw [run_fetch_of_none hr]
      exact iff_of_false nofun nofun
    | some stored =>
      rw [run_fetch hr, Except.ok.injEq, Option.some.injEq]
  · rw [get, hid]
    exact iff_of_false nofun fun h => hvalue ⟨h.1, h.2.1⟩

/-- Digits that lead to no resource are no id, or an id under which nothing is stored. -/
theorem pathId_of_not_under (hnumeral : Id.isNumeral raw = true)
    (hmissing : ∀ r, ¬s.store.Under kind raw r) :
    pathId kind raw = .error (.unassignable kind raw) ∨
      ∃ id, pathId kind raw = .ok id ∧ s.store.get? kind id = none := by
  rcases pathId_cases kind raw with ⟨hnot, -⟩ | ⟨-, ⟨hvalue, hid⟩ | ⟨-, hid⟩⟩
  · rw [hnumeral] at hnot
    cases hnot
  · refine .inr ⟨_, hid, ?_⟩
    cases hr : s.store.get? kind ⟨.ofNat (Id.valueOf raw)⟩ with
    | none => rfl
    | some r => exact absurd ⟨hvalue.1, hvalue.2, hr⟩ (hmissing r)
  · exact .inl hid

/-- Whether a script run in some state fails since something is not found. -/
def FailsAsMissing {α : Type} (x : Script α) (s : State) : Prop :=
  ∃ e, (x.run s).1 = .error e ∧ e.category = .notFound

theorem FailsAsMissing.bind {α β : Type} {x : Script α} (h : FailsAsMissing x s)
    (f : α → Script β) : FailsAsMissing (x >>= f) s := by
  obtain ⟨e, he, hcategory⟩ := h
  exact ⟨e, congrArg Prod.fst (run_bind_of_error (Prod.ext he rfl)), hcategory⟩

theorem FailsAsMissing.map {α β : Type} {x : Script α} (h : FailsAsMissing x s) (g : α → β) :
    FailsAsMissing (g <$> x) s := by
  rw [← bind_pure_comp]
  exact h.bind _

/-- A request that fetches what it looks for goes no further where nothing is found. -/
theorem failsAsMissing_fetch {α : Type} (hnumeral : Id.isNumeral raw = true)
    (hmissing : ∀ r, ¬s.store.Under kind raw r) (f : Id → Resource → Script α) :
    FailsAsMissing (ofExcept (pathId kind raw) >>= fun id => fetch kind id >>= f id) s := by
  rcases pathId_of_not_under hnumeral hmissing with hid | ⟨id, hid, hnone⟩
  · rw [hid]
    exact ⟨_, rfl, rfl⟩
  · rw [hid]
    exact FailsAsMissing.bind ⟨_, congrArg Prod.fst (run_fetch_of_none hnone), rfl⟩ _

theorem failsAsMissing_get (hnumeral : Id.isNumeral raw = true)
    (hmissing : ∀ r, ¬s.store.Under kind raw r) : FailsAsMissing (get kind raw) s := by
  have hfetch := failsAsMissing_fetch hnumeral hmissing fun _ r => pure r
  simp only [bind_pure] at hfetch
  exact hfetch

/-- A status that is in order is not written where there is nothing. -/
theorem failsAsMissing_setStatus {payload : Json.Payload} {status : Status}
    (hnumeral : Id.isNumeral raw = true) (hmissing : ∀ r, ¬s.store.Under kind raw r)
    (hstatus : StatusUpdate.shape.ofPayload payload = .ok ⟨status⟩) (hphase : status.phase ≠ "") :
    FailsAsMissing (setStatus kind raw payload) s := by
  rcases pathId_of_not_under hnumeral hmissing with hid | ⟨id, hid, hnone⟩
  · rw [setStatus, hid]
    exact ⟨_, rfl, rfl⟩
  · rw [FailsAsMissing, run_setStatus_of_ofPayload hid hstatus hphase]
    rcases Call.answer_setStatus s kind id status with ⟨-, hanswer⟩ | ⟨e, t, he, -, -⟩
    · have hnothing : (Script.setStatus kind id status).run s = (.ok none, s) :=
        run_ask_of_answer hanswer
      rw [orFail, run_bind_of_ok hnothing]
      exact ⟨_, rfl, rfl⟩
    · rw [Store.get?_eq_map_at?, he] at hnone
      cases hnone

/-- A request that needs a resource fails where there is none. -/
theorem failsAsMissing_serve (hnumeral : Id.isNumeral raw = true)
    (hmissing : ∀ r, ¬s.store.Under kind raw r) (h : request.Needs kind raw) :
    FailsAsMissing (reg.serve request) s := by
  cases h with
  | get => exact (failsAsMissing_get hnumeral hmissing).map _
  | update kind rawId payload => exact (failsAsMissing_fetch hnumeral hmissing _).map _
  | setStatus kind rawId payload status hstatus hphase =>
    exact (failsAsMissing_setStatus hnumeral hmissing hstatus hphase).map _
  | describe => exact ((failsAsMissing_get hnumeral hmissing).bind _).map _
  | planReplicas => exact ((failsAsMissing_get hnumeral hmissing).bind _).map _
  | recommendResources => exact ((failsAsMissing_get hnumeral hmissing).bind _).map _

/-- **The form of an id alone decides how it fails.** In every state, reachable or not, a request
that looks for a resource fails as not numeric if and only if the text by which it looks is empty or
has a byte that is no ASCII digit, whatever it sends. If the text is all digits, however many, it is
found if and only if their value is at least 1 and less than 2 to the 64th and a resource of the
kind is stored under that id; so zeros at the start make no difference. Otherwise it is not found,
by this request or by any other one that needs the resource. -/
theorem idForm_decides (reg : Registry) (s : State) (kind : Kind) (raw : String) :
    (∀ request : Request, request.addressed? = some (kind, raw) →
      ((∃ e, ((reg.serve request).run s).1 = .error e ∧ e.category = .mustBeNumeric) ↔
        ¬Id.AllDigits raw)) ∧
    (Id.AllDigits raw →
      (∀ answer, ((reg.serve (.get kind raw)).run s).1 = .ok answer ↔
        ∃ r, s.store.Under kind raw r ∧ answer = .resource r) ∧
      ((∀ r, ¬s.store.Under kind raw r) → ∀ request : Request, request.Needs kind raw →
        ∃ e, ((reg.serve request).run s).1 = .error e ∧ e.category = .notFound)) := by
  refine ⟨fun request hrequest => ?_, fun hdigits => ?_⟩
  · rw [(reg.readsId_serve hrequest).failsOfForm_iff s, ← Bool.not_eq_true,
      Id.isNumeral_iff_allDigits]
  · have hnumeral : Id.isNumeral raw = true := Id.isNumeral_iff_allDigits.mpr hdigits
    refine ⟨fun answer => ?_, fun hmissing request => reg.failsAsMissing_serve hnumeral hmissing⟩
    rw [serve, run_map]
    constructor
    · intro h
      obtain ⟨r, hr, rfl⟩ := exists_of_map_eq_ok h
      exact ⟨r, (run_get_eq_ok_iff hnumeral).mp hr, rfl⟩
    · rintro ⟨r, hr, rfl⟩
      rw [(run_get_eq_ok_iff hnumeral).mpr hr]
      rfl

/-- The plan with the id 1 is found with zeros before its id, but not under an id that is larger by
2 to the 64th; and what is not all digits is no id at all. -/
theorem idForm_of_stored_plan :
    (∃ r, stackState.store.Under .plan "0001" r ∧
      ((tenReplicas.serve (.get .plan "0001")).run stackState).1 = .ok (.resource r)) ∧
    (∃ e, ((tenReplicas.serve (.update .plan "18446744073709551617" sentPlan)).run stackState).1 =
      .error e ∧ e.category = .notFound) ∧
    ∃ e, ((tenReplicas.serve (.describe .plan "1x")).run stackState).1 = .error e ∧
      e.category = .mustBeNumeric := by
  have hstored : (stackState.store.get? .plan ⟨1⟩).isSome = true := by decide +kernel
  obtain ⟨r, hr⟩ := Option.isSome_iff_exists.mp hstored
  have hunder : stackState.store.Under .plan "0001" r := ⟨by decide, by decide, hr⟩
  obtain ⟨hform, -⟩ := idForm_decides tenReplicas stackState .plan "1x"
  obtain ⟨-, hfound⟩ := idForm_decides tenReplicas stackState .plan "0001"
  obtain ⟨-, hmissing⟩ := idForm_decides tenReplicas stackState .plan "18446744073709551617"
  refine ⟨⟨r, hunder, ?_⟩, ?_, ?_⟩
  · exact ((hfound (Id.isNumeral_iff_allDigits.mp rfl)).1 _).mpr ⟨r, hunder, rfl⟩
  · refine (hmissing (Id.isNumeral_iff_allDigits.mp rfl)).2 (fun r hr => ?_) _ (.update _ _ _)
    exact absurd hr.2.1 (by decide)
  · refine (hform (.describe .plan "1x") rfl).mpr fun hdigits => ?_
    cases Id.isNumeral_iff_allDigits.mpr hdigits

end Registry

end ClusterRegistry
