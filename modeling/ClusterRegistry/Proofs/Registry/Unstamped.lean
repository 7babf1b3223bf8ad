import ClusterRegistry.Proofs.Registry.Requests
import ClusterRegistry.Proofs.Store.Unstamped

/-!
# Requests without time stamps

The present time reaches a registry in one place, where a new resource is stamped. So a request
that is served at another time, on a store with other stamps, is answered in the same way and
has the same effect, up to the stamps (`Registry.unstamps_serve`).
-/

namespace ClusterRegistry

/-- A registry whose stamps are blank. -/
def Registry.unstamped (reg : Registry) : Registry := { reg with now := "" }

/-- A list without the times at which its resources were created. -/
def ResourceList.unstamped (l : ResourceList) : ResourceList :=
  { l with items := l.items.map Resource.unstamped }

/-- A factory and its plan without the time at which the factory was created. -/
def ScaledFactory.unstamped (s : ScaledFactory) : ScaledFactory :=
  { s with factory := s.factory.unstamped }

/-- An answer without the times at which the resources in it were created. -/
def Answer.unstamped : Answer → Answer
  | .resource r => .resource r.unstamped
  | .list l => .list l.unstamped
  | .scaled s => .scaled s.unstamped
  | .recommendation r => .recommendation r

/-! ## Resources -/

namespace Resource

/-- An update keeps the stamp of the stored resource, whatever it is. -/
theorem updatedWith_unstamped (stored incoming : Resource) :
    stored.unstamped.updatedWith incoming = (stored.updatedWith incoming).unstamped := by
  unfold updatedWith withSpecOf?
  by_cases h : incoming.kind = stored.kind
  · rw [if_pos h, if_pos (show incoming.kind = stored.unstamped.kind from h)]
    rfl
  · rw [if_neg h, if_neg (show incoming.kind ≠ stored.unstamped.kind from h)]
    rfl

theorem childCount_unstamped (r : Resource) : r.unstamped.childCount = r.childCount := by
  obtain ⟨kind, envelope, spec⟩ := r
  cases kind <;> rfl

theorem map_unstamped_assembliesOf (envelope : Envelope) (f : Factory) (ids : List Id) :
    (assembliesOf envelope f ids).map unstamped =
      assembliesOf (unstamped ⟨.assemblyFactory, envelope, f⟩).envelope f ids := by
  unfold assembliesOf
  rw [List.map_zipWith]
  rfl

/-- The children of a resource are stamped with the time of their owner. -/
theorem map_unstamped_family (r : Resource) (ids : List Id) :
    (r.family ids).map unstamped = r.unstamped.family ids := by
  rw [family, family, List.map_cons]
  refine congrArg (r.unstamped :: ·) ?_
  obtain ⟨kind, envelope, spec⟩ := r
  cases kind
  case assemblyFactory => exact map_unstamped_assembliesOf envelope spec ids
  case stacksFactory =>
    cases ids with
    | nil => rfl
    | cons id ids =>
      exact congrArg ((innerFactory envelope spec id).unstamped :: ·)
        (map_unstamped_assembliesOf (innerFactory envelope spec id).envelope spec ids)
  -- the other kinds have no children
  all_goals rfl

end Resource

/-! ## Resolving -/

namespace Script

theorem unstamps_findOwner (child : Kind) (o : OwnerReference) (id : Id) (kinds : List Kind) :
    (findOwner child o id kinds).Unstamps (fun found => found) (findOwner child o id kinds) := by
  induction kinds with
  | nil => exact unstamps_pure rfl
  | cons kind rest ih =>
    apply (unstamps_get? kind id).bind
    intro found
    cases found with
    | none => exact ih
    | some owner => exact unstamps_pure rfl

theorem unstamps_matchOwner (child : Kind) (o : OwnerReference) :
    (matchOwner child o).Unstamps (fun found => found) (matchOwner child o) := by
  unfold matchOwner
  split
  · exact unstamps_pure rfl
  · split
    · exact unstamps_pure rfl
    · exact unstamps_findOwner child o _ _

theorem unstamps_matchOwners (child : Kind) (owners : List OwnerReference) :
    (matchOwners child owners).Unstamps (fun found => found) (matchOwners child owners) := by
  induction owners with
  | nil => exact unstamps_pure rfl
  | cons o rest ih =>
    apply (unstamps_matchOwner child o).bind
    intro found
    cases found with
    | error e => exact unstamps_pure rfl
    | ok resolved => exact ih.bind fun _ => unstamps_pure rfl

theorem unstamps_checkReferences (references : List FieldReference) :
    (checkReferences references).Unstamps (fun fault => fault) (checkReferences references) := by
  induction references with
  | nil => exact unstamps_pure rfl
  | cons f rest ih =>
    unfold checkReferences
    split
    · exact ih
    · split
      · exact unstamps_pure rfl
      · apply (unstamps_get? _ _).bind
        intro found
        cases found with
        | none => exact unstamps_pure rfl
        | some parent => exact ih

/-- Of the owners that are looked up no stamp is taken over. -/
theorem unstamps_resolved (r : Resource) :
    (resolved r).Unstamps (fun admitted => admitted) (resolved r) := by
  unfold resolved resolution
  refine Unstamps.bind (f := fun outcome => outcome) ?_ fun outcome => ?_
  · apply (unstamps_matchOwners _ _).bind
    intro found
    obtain ⟨owners, fault⟩ := found
    cases fault with
    | some e => exact unstamps_pure rfl
    | none => exact (unstamps_checkReferences _).bind fun _ => unstamps_pure rfl
  · split
    · exact unstamps_fail _
    · exact unstamps_pure rfl

theorem unstamps_drawIds (count : Nat) :
    (drawIds count).Unstamps (fun ids => ids) (drawIds count) := by
  induction count with
  | zero => exact unstamps_pure rfl
  | succ count ih =>
    exact unstamps_drawId.bind fun _ => ih.bind fun _ => unstamps_pure rfl

end Script

/-! ## Operations -/

namespace Registry

open Script

variable (reg : Registry)

theorem unstamps_accept (kind : Kind) (payload : Json.Payload) :
    (reg.accept kind payload).Unstamps (fun admitted => admitted)
      (reg.unstamped.accept kind payload) := by
  apply (unstamps_step _).bind
  intro sent
  apply (unstamps_step _).bind
  intro _
  exact unstamps_resolved _

/-- A new resource is stamped with the present time and entered with its children. -/
theorem unstamps_enter (r : Resource) :
    (reg.enter r).Unstamps Resource.unstamped (reg.unstamped.enter r) := by
  apply unstamps_drawId.bind
  intro id
  have hcreated : reg.unstamped.asCreated r id = (reg.asCreated r id).unstamped := rfl
  dsimp only [id_eq]
  rw [hcreated, Resource.childCount_unstamped]
  apply (unstamps_drawIds _).bind
  intro ids
  rw [← Resource.map_unstamped_family]
  exact (unstamps_insert _).bind fun _ => unstamps_pure rfl

theorem unstamps_create (kind : Kind) (payload : Json.Payload) (account : Option String) :
    (reg.create kind payload account).Unstamps Resource.unstamped
      (reg.unstamped.create kind payload account) := by
  rw [create_eq, create_eq]
  apply (unstamps_step _).bind
  intro route
  apply (reg.unstamps_accept kind payload).bind
  intro admitted
  exact reg.unstamps_enter _

theorem unstamps_fetch (kind : Kind) (id : Id) :
    (fetch kind id).Unstamps Resource.unstamped (fetch kind id) :=
  (unstamps_get? kind id).orFail (.notStored kind id)

theorem unstamps_update (kind : Kind) (rawId : String) (payload : Json.Payload) :
    (reg.update kind rawId payload).Unstamps Resource.unstamped
      (reg.unstamped.update kind rawId payload) := by
  apply (unstamps_step _).bind
  intro id
  apply (unstamps_fetch kind id).bind
  intro stored
  apply (unstamps_step _).bind
  intro sent
  apply (unstamps_step _).bind
  intro _
  apply (unstamps_resolved _).bind
  intro incoming
  rw [Resource.updatedWith_unstamped]
  exact (unstamps_setSpec _).orFail (.notStored kind id)

theorem unstamps_writeStatus (kind : Kind) (rawId : String) (payload : Json.Payload) :
    (setStatus kind rawId payload).Unstamps Resource.unstamped (setStatus kind rawId payload) := by
  apply (unstamps_step _).bind
  intro id
  apply (unstamps_step _).bind
  intro update
  by_cases hphase : update.status.phase = ""
  · simp only [if_pos hphase]
    exact unstamps_fail _
  · simp only [if_neg hphase]
    exact (unstamps_setStatus kind id update.status).orFail (.notStored kind id)

theorem unstamps_fetchRaw (kind : Kind) (rawId : String) :
    (get kind rawId).Unstamps Resource.unstamped (get kind rawId) :=
  (unstamps_step _).bind fun id => unstamps_fetch kind id

/-- Whether a list is empty does not depend on the stamps. -/
theorem nonemptyList_unstamped (kind : Kind) (otherwise : ApiError) (items : List Resource) :
    (reg.nonemptyList kind otherwise items).map ResourceList.unstamped =
      reg.unstamped.nonemptyList kind otherwise (items.map Resource.unstamped) := by
  cases items <;> rfl

theorem unstamps_listAll (kind : Kind) :
    (reg.list kind).Unstamps ResourceList.unstamped (reg.unstamped.list kind) :=
  (unstamps_list kind {}).bind fun _ => unstamps_pure rfl

theorem unstamps_listSome (kind : Kind) :
    (reg.listSome kind).Unstamps ResourceList.unstamped (reg.unstamped.listSome kind) :=
  (unstamps_list kind {}).bind fun items =>
    unstamps_ofExcept (reg.nonemptyList_unstamped kind _ items)

theorem unstamps_listInAccount (kind : Kind) (rawAccount : String) :
    (reg.listInAccount kind rawAccount).Unstamps ResourceList.unstamped
      (reg.unstamped.listInAccount kind rawAccount) := by
  apply (unstamps_step _).bind
  intro account
  apply (unstamps_list kind _).bind
  intro items
  exact unstamps_ofExcept (reg.nonemptyList_unstamped kind _ items)

theorem unstamps_listUnder (kind parent : Kind) (rawParentId : String) :
    (reg.listUnder kind parent rawParentId).Unstamps ResourceList.unstamped
      (reg.unstamped.listUnder kind parent rawParentId) := by
  apply (unstamps_step _).bind
  intro id
  apply (unstamps_list kind _).bind
  intro items
  exact unstamps_ofExcept (reg.nonemptyList_unstamped kind _ items)

theorem unstamps_describe (kind : Kind) (rawId : String) :
    (reg.describe kind rawId).Unstamps ResourceList.unstamped
      (reg.unstamped.describe kind rawId) := by
  apply (unstamps_fetchRaw kind rawId).bind
  intro r
  have hkind : r.unstamped.kind.row.child = r.kind.row.child := rfl
  rw [hkind]
  split
  · exact (unstamps_list _ _).bind fun _ => unstamps_pure rfl
  · exact unstamps_fail _

theorem unstamps_factoryOf (policy : Resource) :
    (factoryOf policy).Unstamps Resource.unstamped (factoryOf policy.unstamped) := by
  unfold factoryOf
  have hfactory : policy.unstamped.factory? = policy.factory? := rfl
  rw [hfactory]
  split
  · exact unstamps_fail _
  · exact unstamps_fetch _ _

/-- A plan depends on the factory and its assemblies through ids and names alone. -/
theorem ofPolicy_unstamped (policy : HorizontalScalingSpec) (status : Status) (factory : Resource)
    (assemblies : List Resource) :
    ScalingPlan.ofPolicy policy status factory.unstamped (assemblies.map Resource.unstamped) =
      ScalingPlan.ofPolicy policy status factory assemblies := by
  unfold ScalingPlan.ofPolicy
  rw [List.length_map, ← List.map_reverse]
  simp only [← List.map_take, List.map_map]
  rfl

theorem unstamps_planReplicas (rawId : String) :
    (planReplicas rawId).Unstamps ScaledFactory.unstamped (planReplicas rawId) := by
  apply (unstamps_fetchRaw _ rawId).bind
  intro policy
  apply (unstamps_factoryOf policy).bind
  intro factory
  apply (unstamps_list _ _).bind
  intro assemblies
  obtain ⟨kind, envelope, spec⟩ := policy
  cases kind
  case horizontalScaling =>
    exact unstamps_pure (congrArg (ScaledFactory.mk factory.unstamped)
      (ofPolicy_unstamped _ _ factory assemblies).symm)
  all_goals exact unstamps_fail _

theorem unstamps_recommendResources (rawId : String) :
    (reg.recommendResources rawId).Unstamps (fun found => found)
      (reg.unstamped.recommendResources rawId) := by
  apply (unstamps_fetchRaw _ rawId).bind
  intro policy
  apply (unstamps_factoryOf policy).bind
  intro factory
  apply (unstamps_step _).bind
  intro usage
  obtain ⟨kind, envelope, spec⟩ := policy
  cases kind
  case verticalScaling => exact unstamps_pure rfl
  all_goals exact unstamps_fail _

/-- Serving a request without stamps gives what serving it with stamps gives, but for the
stamps. -/
theorem unstamps_serve (request : Request) :
    (reg.serve request).Unstamps Answer.unstamped (reg.unstamped.serve request) := by
  cases request with
  | create kind payload account =>
    exact (reg.unstamps_create kind payload account).map _ fun _ => rfl
  | update kind rawId payload => exact (reg.unstamps_update kind rawId payload).map _ fun _ => rfl
  | setStatus kind rawId payload =>
    exact (unstamps_writeStatus kind rawId payload).map _ fun _ => rfl
  | get kind rawId => exact (unstamps_fetchRaw kind rawId).map _ fun _ => rfl
  | list kind => exact (reg.unstamps_listAll kind).map _ fun _ => rfl
  | listSome kind => exact (reg.unstamps_listSome kind).map _ fun _ => rfl
  | listInAccount kind rawAccount =>
    exact (reg.unstamps_listInAccount kind rawAccount).map _ fun _ => rfl
  | listUnder kind parent rawParentId =>
    exact (reg.unstamps_listUnder kind parent rawParentId).map _ fun _ => rfl
  | describe kind rawId => exact (reg.unstamps_describe kind rawId).map _ fun _ => rfl
  | planReplicas rawId => exact (unstamps_planReplicas rawId).map _ fun _ => rfl
  | recommendResources rawId =>
    exact (reg.unstamps_recommendResources rawId).map _ fun _ => rfl

end Registry

end ClusterRegistry
