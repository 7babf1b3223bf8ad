import ClusterRegistry.Proofs.Expansion.Names
import ClusterRegistry.Proofs.Shape.RoundTrip
import ClusterRegistry.Proofs.Store.Listing
import ClusterRegistry.Scaling.Plan

/-!
# Plans reach their goal

A plan has one goal, the number of replicas that is asked for brought within the bounds of the
policy, and either adds what is missing from it or removes what is too much: of assemblies in
ascending order those from the goal on, the newest first. What is left and what is added are together
as many as the goal says. So the plan that is made next has the same goal, whether or not a number is
still asked for, and has nothing left to do (`ScalingPlan.reaches_goal`).
-/

namespace ClusterRegistry

/-! ## The number that is asked for -/

/-- Whether a status asks for a number of replicas: this number was observed, as an integer of 32
bits. -/
def Status.AsksFor (s : Status) (n : Nat) : Prop :=
  s.observation? desiredReplicasKey = some (.number (.integer n)) ∧ n < UInt32.size

/-- A natural number of some bits is read from the integer that it is, and from nothing else. -/
theorem decodeWord_eq_ok_iff {bits n : Nat} {v : Json} :
    decodeWord bits v = .ok n ↔ v = .number (.integer n) ∧ n < Decimal.twoPow bits := by
  constructor
  · intro h
    unfold decodeWord wordOf at h
    split at h
    · split at h
      · next i =>
        split at h
        · next hrange =>
          cases h
          obtain ⟨i, rfl⟩ := Int.eq_ofNat_of_zero_le hrange.1
          exact ⟨rfl, Int.ofNat_lt.mp hrange.2⟩
        · cases h
      · cases h
    · cases h
  · rintro ⟨rfl, hn⟩
    exact wordOf_ofNat hn

theorem Status.requestedReplicas_eq_some_iff {s : Status} {n : UInt32} :
    s.requestedReplicas = some n ↔ s.AsksFor n.toNat := by
  have hdecode : ∀ v : Json,
      (Shape.word32.decode v).toOption = some n ↔ v = .number (.integer n.toNat) := by
    intro v
    show ((decodeWord 32 v).map UInt32.ofNat).toOption = some n ↔ _
    constructor
    · intro h
      cases hword : decodeWord 32 v with
      | error e =>
        rw [hword] at h
        cases h
      | ok m =>
        rw [hword] at h
        obtain rfl : UInt32.ofNat m = n := Option.some.inj h
        obtain ⟨rfl, hm⟩ := decodeWord_eq_ok_iff.mp hword
        rw [UInt32.toNat_ofNat_of_lt' hm]
    · rintro rfl
      rw [decodeWord_eq_ok_iff.mpr ⟨rfl, n.toNat_lt⟩]
      exact congrArg some UInt32.ofNat_toNat
  rw [requestedReplicas, AsksFor, Option.bind_eq_bind, Option.bind_eq_some_iff]
  constructor
  · rintro ⟨v, hv, h⟩
    rw [hv, (hdecode v).mp h]
    exact ⟨rfl, n.toNat_lt⟩
  · rintro ⟨hv, -⟩
    exact ⟨_, hv, (hdecode _).mpr rfl⟩

/-- A status asks for a number of replicas exactly if this is the one that is read. -/
theorem Status.AsksFor.requestedReplicas_eq {s : Status} {n : Nat} (h : s.AsksFor n) :
    ∃ requested : UInt32, s.requestedReplicas = some requested ∧ requested.toNat = n := by
  have hn : (UInt32.ofNat n).toNat = n := UInt32.toNat_ofNat_of_lt' h.2
  exact ⟨.ofNat n, requestedReplicas_eq_some_iff.mpr (hn.symm ▸ h), hn⟩

theorem Status.requestedReplicas_eq_none {s : Status} (h : ∀ n, ¬ s.AsksFor n) :
    s.requestedReplicas = none := by
  rw [Option.eq_none_iff_forall_ne_some]
  intro n hn
  exact h _ (requestedReplicas_eq_some_iff.mp hn)

namespace ScalingPlan

/-- The assemblies when a plan has been carried out: those that it does not remove, and the ones that
were added. -/
def carriedOut (plan : ScalingPlan) (assemblies added : List Resource) : List Resource :=
  assemblies.filter (fun r => r.id ∉ plan.toRetire) ++ added

/-- Whether a plan leads from some assemblies to the number that it wants: it gives a name for each
one that is missing, or the ids of the newest of them in descending order if there are too many. -/
structure LeadsToGoal (plan : ScalingPlan) (assemblies : List Resource) : Prop where
  missing : plan.toDeploy.length = plan.desiredReplicas.toNat - assemblies.length
  surplus : plan.toRetire.length = assemblies.length - plan.desiredReplicas.toNat
  either : plan.toDeploy = [] ∨ plan.toRetire = []
  newest : plan.toRetire =
    ((assemblies.drop plan.desiredReplicas.toNat).map Resource.id).reverse
  descending : plan.toRetire.Pairwise fun i j => j.value < i.value
  beyond : ∀ r ∈ assemblies, r.id ∉ plan.toRetire → ∀ i ∈ plan.toRetire, r.id.value < i.value

/-! ## The goal -/

section

variable {lower upper : UInt32} (h : lower ≤ upper)
include h

/-- Bounds that do not cross may be applied in any order. -/
theorem toNat_clamp (n : UInt32) :
    (clamp lower upper n).toNat = max lower.toNat (min upper.toNat n.toNat) := by
  rw [UInt32.le_iff_toNat_le] at h
  simp only [clamp, min, max]
  grind [UInt32.le_iff_toNat_le]

/-- A number that is brought within bounds that do not cross lies within them. -/
theorem clamp_within (n : UInt32) :
    lower ≤ clamp lower upper n ∧ clamp lower upper n ≤ upper := by
  rw [UInt32.le_iff_toNat_le, UInt32.le_iff_toNat_le, toNat_clamp h]
  rw [UInt32.le_iff_toNat_le] at h
  omega

/-- What was brought within bounds is left where it is. -/
theorem clamp_clamp (n : UInt32) :
    clamp lower upper (clamp lower upper n) = clamp lower upper n := by
  obtain ⟨hlower, hupper⟩ := clamp_within h n
  rw [← UInt32.toNat_inj, toNat_clamp h]
  rw [UInt32.le_iff_toNat_le] at hlower hupper
  omega

end

variable {policy : HorizontalScalingSpec} {status : Status} {factory : Resource}
  {assemblies : List Resource}

/-! ## What is added and what is removed -/

/-- As many names are given as replicas are missing. -/
theorem length_toDeploy (hcount : assemblies.length < UInt32.size) :
    (ofPolicy policy status factory assemblies).toDeploy.length =
      (ofPolicy policy status factory assemblies).desiredReplicas.toNat - assemblies.length := by
  unfold ofPolicy
  dsimp only
  split
  · rw [length_replicaNames, UInt32.toNat_ofNat_of_lt' hcount, Nat.add_sub_add_right]
  · next hle =>
    rw [UInt32.not_lt, UInt32.le_iff_toNat_le, UInt32.toNat_ofNat_of_lt' hcount] at hle
    rw [List.length_nil, Nat.sub_eq_zero_of_le hle]

/-- The assemblies that are removed are those from the goal on. -/
theorem toRetire_eq (hcount : assemblies.length < UInt32.size) :
    (ofPolicy policy status factory assemblies).toRetire =
      ((assemblies.drop (ofPolicy policy status factory assemblies).desiredReplicas.toNat).map
        Resource.id).reverse := by
  have hdrop : ∀ goal : Nat,
      assemblies.drop (assemblies.length - (assemblies.length - goal)) = assemblies.drop goal := by
    intro goal
    rw [List.drop_eq_drop_iff]
    omega
  unfold ofPolicy
  dsimp only
  rw [UInt32.toNat_ofNat_of_lt' hcount, List.take_reverse, hdrop, List.map_reverse]

/-- Of assemblies in ascending order, those without an id of the last ones are the first ones. -/
theorem filter_not_mem_of_append {kept retired : List Resource}
    (h : (kept ++ retired).Pairwise Store.Earlier) :
    (kept ++ retired).filter (fun r => r.id ∉ (retired.map Resource.id).reverse) = kept := by
  have hbefore := (List.pairwise_append.mp h).2.2
  have hkept : ∀ r ∈ kept, decide (r.id ∉ (retired.map Resource.id).reverse) = true := by
    intro r hr
    rw [decide_eq_true_iff, List.mem_reverse, List.mem_map]
    rintro ⟨q, hq, hid⟩
    have hlt : r.id.value < q.id.value := hbefore r hr q hq
    rw [hid] at hlt
    exact UInt64.lt_irrefl _ hlt
  have hretired : ∀ r ∈ retired, ¬ decide (r.id ∉ (retired.map Resource.id).reverse) = true := by
    intro r hr
    rw [decide_eq_true_iff, not_not, List.mem_reverse]
    exact List.mem_map_of_mem hr
  rw [List.filter_append, List.filter_eq_self.mpr hkept, List.filter_eq_nil_iff.mpr hretired,
    List.append_nil]

/-- What is left of the assemblies are those up to the goal. -/
theorem filter_not_mem_toRetire (hcount : assemblies.length < UInt32.size)
    (hascending : assemblies.Pairwise Store.Earlier) :
    assemblies.filter (fun r => r.id ∉ (ofPolicy policy status factory assemblies).toRetire) =
      assemblies.take (ofPolicy policy status factory assemblies).desiredReplicas.toNat := by
  rw [toRetire_eq hcount]
  generalize (ofPolicy policy status factory assemblies).desiredReplicas.toNat = goal
  rw [← List.take_append_drop goal assemblies] at hascending
  have hkept := filter_not_mem_of_append hascending
  rwa [List.take_append_drop] at hkept

/-- Where there are as many assemblies as were wanted, the same number is wanted, whether it is still
asked for or not. -/
theorem desiredReplicas_eq_of_length {later : Status} {after : List Resource}
    (hbounds : policy.minReplicas ≤ policy.maxReplicas)
    (hlater : later = status ∨ ∀ n, ¬ later.AsksFor n)
    (hafter : after.length = (ofPolicy policy status factory assemblies).desiredReplicas.toNat) :
    (ofPolicy policy later factory after).desiredReplicas =
      (ofPolicy policy status factory assemblies).desiredReplicas := by
  have hcurrent : UInt32.ofNat after.length =
      (ofPolicy policy status factory assemblies).desiredReplicas := by
    rw [hafter, UInt32.ofNat_toNat]
  -- a number that is not asked for is the present one, which has been brought within bounds
  have hnone : clamp policy.minReplicas policy.maxReplicas (UInt32.ofNat after.length) =
      (ofPolicy policy status factory assemblies).desiredReplicas := by
    rw [hcurrent]
    exact clamp_clamp hbounds _
  show clamp _ _ (later.requestedReplicas.getD (UInt32.ofNat after.length)) = _
  rcases hlater with rfl | hlater
  · cases hrequested : later.requestedReplicas with
    | none => exact hnone
    | some n =>
      show clamp _ _ n = clamp _ _ (later.requestedReplicas.getD _)
      rw [hrequested]
      rfl
  · rw [Status.requestedReplicas_eq_none hlater]
    exact hnone

/-- A plan leads from some assemblies to its goal. -/
theorem leadsToGoal_ofPolicy (hcount : assemblies.length < UInt32.size)
    (hascending : assemblies.Pairwise Store.Earlier) :
    (ofPolicy policy status factory assemblies).LeadsToGoal assemblies := by
  obtain ⟨plan, hplan⟩ : ∃ plan, ofPolicy policy status factory assemblies = plan := ⟨_, rfl⟩
  have hdeploy : plan.toDeploy.length = plan.desiredReplicas.toNat - assemblies.length :=
    hplan ▸ length_toDeploy hcount
  have hretire : plan.toRetire =
      ((assemblies.drop plan.desiredReplicas.toNat).map Resource.id).reverse :=
    hplan ▸ toRetire_eq hcount
  have hkept : assemblies.filter (fun r => r.id ∉ plan.toRetire) =
      assemblies.take plan.desiredReplicas.toNat :=
    hplan ▸ filter_not_mem_toRetire hcount hascending
  rw [hplan]
  have hlength : plan.toRetire.length = assemblies.length - plan.desiredReplicas.toNat := by
    rw [hretire, List.length_reverse, List.length_map, List.length_drop]
  rw [← List.take_append_drop plan.desiredReplicas.toNat assemblies] at hascending
  obtain ⟨-, hlast, hbefore⟩ := List.pairwise_append.mp hascending
  refine ⟨hdeploy, hlength, ?_, hretire, ?_, ?_⟩
  · rw [← List.length_eq_zero_iff, ← List.length_eq_zero_iff, hdeploy, hlength]
    omega
  · rw [hretire, List.pairwise_reverse, List.pairwise_map]
    exact hlast
  · intro r hr hnot i hi
    have hrkept : r ∈ assemblies.take plan.desiredReplicas.toNat := by
      rw [← hkept, List.mem_filter]
      exact ⟨hr, decide_eq_true hnot⟩
    rw [hretire, List.mem_reverse, List.mem_map] at hi
    obtain ⟨q, hq, rfl⟩ := hi
    exact hbefore r hrkept q hq

/-- What a plan leaves behind is as many assemblies as it wants. -/
theorem length_carriedOut (hcount : assemblies.length < UInt32.size)
    (hascending : assemblies.Pairwise Store.Earlier) {added : List Resource}
    (hadded : added.map (·.objectMeta.name) =
      (ofPolicy policy status factory assemblies).toDeploy) :
    ((ofPolicy policy status factory assemblies).carriedOut assemblies added).length =
      (ofPolicy policy status factory assemblies).desiredReplicas.toNat := by
  have hlength := congrArg List.length hadded
  rw [List.length_map, length_toDeploy hcount] at hlength
  rw [carriedOut, filter_not_mem_toRetire hcount hascending, List.length_append, List.length_take,
    hlength]
  omega

/-- **Plans reach their goal.** For a policy whose bounds do not cross, any status, any factory and
fewer than 2^32 assemblies in ascending order of their ids, what a plan wants is the number that is
asked for, or the present one if none is, brought within the bounds; and the plan leads there. When
assemblies of the names that it gives are added to those that it keeps, what is wanted next is the
same, be it still asked for or not, and nothing is left to do; and if the ids of the added ones are
new, the order is ascending again. -/
theorem reaches_goal (policy : HorizontalScalingSpec) (status : Status) (factory : Resource)
    (assemblies : List Resource) (hbounds : policy.minReplicas ≤ policy.maxReplicas)
    (hcount : assemblies.length < UInt32.size) (hascending : assemblies.Pairwise Store.Earlier) :
    let plan := ofPolicy policy status factory assemblies
    (∀ n, status.AsksFor n → plan.desiredReplicas.toNat =
      max policy.minReplicas.toNat (min policy.maxReplicas.toNat n)) ∧
    ((∀ n, ¬ status.AsksFor n) → plan.desiredReplicas.toNat =
      max policy.minReplicas.toNat (min policy.maxReplicas.toNat assemblies.length)) ∧
    plan.LeadsToGoal assemblies ∧
    ∀ added : List Resource, added.map (·.objectMeta.name) = plan.toDeploy →
      (∀ later : Status, later = status ∨ (∀ n, ¬ later.AsksFor n) →
        let next := ofPolicy policy later factory (plan.carriedOut assemblies added)
        next.desiredReplicas = plan.desiredReplicas ∧ next.toDeploy = [] ∧ next.toRetire = []) ∧
      ((assemblies ++ added).Pairwise Store.Earlier →
        (plan.carriedOut assemblies added).Pairwise Store.Earlier) := by
  refine ⟨fun n hn => ?_, fun hnone => ?_, leadsToGoal_ofPolicy hcount hascending,
    fun added hadded => ⟨fun later hlater => ?_, fun hnew => ?_⟩⟩
  · obtain ⟨requested, hrequested, rfl⟩ := hn.requestedReplicas_eq
    show (clamp _ _ (status.requestedReplicas.getD _)).toNat = _
    rw [hrequested]
    exact toNat_clamp hbounds requested
  · have hclamp := toNat_clamp hbounds (UInt32.ofNat assemblies.length)
    rw [UInt32.toNat_ofNat_of_lt' hcount] at hclamp
    show (clamp _ _ (status.requestedReplicas.getD _)).toNat = _
    rw [Status.requestedReplicas_eq_none hnone]
    exact hclamp
  · have hlength := length_carriedOut hcount hascending hadded
    have hgoal := desiredReplicas_eq_of_length hbounds hlater hlength
    have hfewer : ((ofPolicy policy status factory assemblies).carriedOut assemblies added).length <
        UInt32.size := by
      rw [hlength]
      exact UInt32.toNat_lt _
    refine ⟨hgoal, ?_, ?_⟩
    · rw [← List.length_eq_zero_iff, length_toDeploy hfewer, hgoal, hlength, Nat.sub_self]
    · rw [toRetire_eq hfewer, hgoal, ← hlength, List.drop_length]
      rfl
  · exact hnew.sublist (List.filter_sublist.append_right added)

/-- A live assembly with an id. -/
def liveReplica (id : UInt64) : Resource := ⟨.assembly, { id := ⟨id⟩ }, ({} : Assembly)⟩

/-- Four assemblies of which none is asked for are brought down to the two that the policy wants at
least. The newest two go, the newest first, and then there is nothing left to do, be it that none is
asked for or that nothing is asked for any more. -/
theorem four_replicas_brought_down :
    let policy : HorizontalScalingSpec := { minReplicas := 2, maxReplicas := 5 }
    let noneAsked : Status :=
      { extra := Table.empty.insert desiredReplicasKey (.number (.integer 0)) }
    let assemblies := [liveReplica 2, liveReplica 3, liveReplica 4, liveReplica 5]
    let plan := ofPolicy policy noneAsked (liveReplica 1) assemblies
    plan.desiredReplicas.toNat = 2 ∧ plan.LeadsToGoal assemblies ∧ plan.toRetire = [⟨5⟩, ⟨4⟩] ∧
      plan.carriedOut assemblies [] = [liveReplica 2, liveReplica 3] ∧
      ∀ later ∈ [noneAsked, {}],
        let next := ofPolicy policy later (liveReplica 1) [liveReplica 2, liveReplica 3]
        next.desiredReplicas = plan.desiredReplicas ∧ next.toDeploy = [] ∧ next.toRetire = [] := by
  intro policy noneAsked assemblies plan
  have hascending : assemblies.Pairwise Store.Earlier :=
    (by decide : assemblies.Pairwise fun r q => r.id.value < q.id.value)
  obtain ⟨hasked, -, hleads, hreached⟩ :=
    reaches_goal policy noneAsked (liveReplica 1) assemblies (by decide) (by decide) hascending
  have hgoal : plan.desiredReplicas.toNat = 2 := hasked 0 ⟨rfl, by decide⟩
  have hretire : plan.toRetire = [⟨5⟩, ⟨4⟩] := by
    rw [hleads.newest, hgoal]
    rfl
  have hcarried : plan.carriedOut assemblies [] = [liveReplica 2, liveReplica 3] := by
    rw [carriedOut, hretire]
    rfl
  have hdeploy : [] = plan.toDeploy := by
    rw [eq_comm, ← List.length_eq_zero_iff, hleads.missing, hgoal]
    rfl
  refine ⟨hgoal, hleads, hretire, hcarried, fun later hlater => ?_⟩
  have hnext := (hreached [] hdeploy).1 later
  rw [hcarried] at hnext
  apply hnext
  rcases List.mem_cons.mp hlater with rfl | hlater
  · exact .inl rfl
  · obtain rfl := List.mem_singleton.mp hlater
    exact .inr fun n hn => nomatch hn.1

end ScalingPlan

end ClusterRegistry
