import ClusterRegistry.Proofs.Registry.InAccount
import ClusterRegistry.Proofs.Registry.ServerOwned
import ClusterRegistry.Proofs.Shape.Exchanged

/-!
# Creating in an account

The account of a route is put in the place of the one that was sent, after the payload has passed
the check and has been resolved. That comes to the same as sending the payload with this account to
the plain route (`Registry.create_rerouted`): the account is decoded by itself, so that a payload
with another one is decoded to the same resource in another account, or fails for the same reason
(`decodePayload_inAccount`); the check asks whether there is an account at all; resolving does not
look at it; and whatever is entered has the one that wins.
-/

namespace ClusterRegistry

/-- A payload with an account in the place of the one that its object metadata says. -/
def Json.inAccount (a : String) (v : Json) : Json :=
  match v.member? "object_meta" with
  | some objectMeta =>
    v.withSaid [] "object_meta" (objectMeta.withSaid ObjectMeta.shape.keys "account" (.text a))
  | none => v

variable {p q : Json.Payload} {kind : Kind} {a b : String} {r : Resource}

/-! ## Decoding -/

/-- The field of object metadata that holds the account. -/
abbrev ObjectMeta.accountField : Field ObjectMeta :=
  .written .defaulted "account" (·.account) (fun v m => { m with account := v }) .text

/-- Object metadata with another account is decoded to the same with another account. -/
theorem ObjectMeta.decode_exchanged {v v' : Json} (hordered : v.Ordered)
    (h : Json.Exchanged ObjectMeta.shape.keys "account" (.text b) (.text a) v v') :
    ObjectMeta.shape.decode v' =
      (ObjectMeta.shape.decode v).map fun m => { m with account := a } := by
  have hoptional : ObjectMeta.shape.fields.OptionalFrom 0 := by
    simp [ObjectMeta.shape, Shape.fields, Fields.OptionalFrom]
  have hdecode : ObjectMeta.accountField.decode (.text a) =
      (ObjectMeta.accountField.decode (.text b)).map fun _ => a := rfl
  have hf : ObjectMeta.accountField ∈ ObjectMeta.shape.fields.list := .tail _ (.head _)
  exact ObjectMeta.lawful_shape.1.1.decode_exchanged hoptional hf hdecode hordered h

/-- If two object metadata are decoded alike but for their form, so are envelopes with them. -/
theorem Envelope.decode_exchanged {φ : ObjectMeta → ObjectMeta} {w w' v v' : Json}
    (hdecode : ObjectMeta.shape.decode w' = (ObjectMeta.shape.decode w).map φ)
    (hordered : v.Ordered) (h : Json.Exchanged Envelope.fields.keys "object_meta" w w' v v') :
    (Shape.record "Envelope" {} Envelope.fields).decode v' =
      ((Shape.record "Envelope" {} Envelope.fields).decode v).map fun e =>
        { e with objectMeta := φ e.objectMeta } := by
  have hoptional : Envelope.fields.OptionalFrom 0 := by simp [Envelope.fields, Fields.OptionalFrom]
  have hf : Envelope.objectMetaField ∈ Envelope.fields.list := .tail _ (.tail _ (.head _))
  exact Envelope.lawful_shape.1.1.decode_exchanged hoptional hf hdecode hordered h

/-- A payload with another account is decoded to the same resource in that account, and fails as it
would fail without. -/
theorem Resource.decode_inAccount {v w : Json} (hordered : v.Ordered)
    (hmeta : v.member? "object_meta" = some w)
    (haccount : w.said? ObjectMeta.shape.keys "account" = some (.text b)) :
    decode kind (v.inAccount a) = (decode kind v).map (inAccount (some a)) := by
  have hinAccount : v.inAccount a =
      v.withSaid [] "object_meta" (w.withSaid ObjectMeta.shape.keys "account" (.text a)) := by
    rw [Json.inAccount, hmeta]
  cases v with
  | object members =>
    have hw : w.Ordered :=
      (Json.ordered_object_iff.mp hordered).2 _ (Json.mem_of_member? hmeta)
    have hnodup : ObjectMeta.shape.keys.Nodup := ObjectMeta.lawful_shape.1.1.nodup
    have hdecode := ObjectMeta.decode_exchanged hw
      (Json.exchanged_withSaid hw hnodup haccount (.text a))
    have hexchanged := Json.exchanged_withSaid hordered List.nodup_nil hmeta
      (w.withSaid ObjectMeta.shape.keys "account" (.text a))
    rw [← hinAccount] at hexchanged
    generalize (Json.object members).inAccount a = v' at hexchanged
    cases hexchanged with
    | member before after =>
      have henvelope := Envelope.decode_exchanged hdecode hordered (.member before after)
      have hkey : "object_meta" ∉ kind.form.fields.keys := fun hkey =>
        kind.notMem_keys_envelope _ hkey (by decide)
      rw [decode, decode, henvelope, Fields.decode_member_of_not_mem hkey,
        Fields.decode_member_of_not_mem hkey]
      cases (Shape.record "Envelope" {} Envelope.fields).decode _ with
      | error e => rfl
      | ok envelope =>
        cases (Shape.record kind.name kind.form.blank kind.form.fields).decode _ with
        | error e => rfl
        | ok spec => rfl
  | _ => cases hmeta

/-- A payload that says something of the object metadata says an object metadata. -/
theorem Json.Payload.exists_of_saidOfMeta? {key : String} {w : Json}
    (h : p.saidOfMeta? key = some w) :
    ∃ v objectMeta, p.value = .ok v ∧ v.member? "object_meta" = some objectMeta ∧
      objectMeta.said? ObjectMeta.shape.keys key = some w := by
  obtain ⟨objectMeta, hmeta, hsaid⟩ := Option.bind_eq_some_iff.mp h
  obtain ⟨v, hv, hmember⟩ := Option.bind_eq_some_iff.mp hmeta
  cases hvalue : p.value with
  | error e =>
    rw [hvalue] at hv
    cases hv
  | ok v' =>
    rw [hvalue] at hv
    obtain rfl := Option.some.inj hv
    exact ⟨v', objectMeta, rfl, hmember, hsaid⟩

/-- So is a payload that says an account. -/
theorem decodePayload_inAccount (hp : p.saidOfMeta? "account" = some (.text b))
    (hq : q.value = p.value.map (Json.inAccount a)) :
    decodePayload kind q = (decodePayload kind p).map (Resource.inAccount (some a)) := by
  obtain ⟨v, objectMeta, hv, hmeta, haccount⟩ := p.exists_of_saidOfMeta? hp
  have hdecode : Resource.decode kind (v.inAccount a) = _ :=
    Resource.decode_inAccount (Json.parsed_of_payload hv).ordered hmeta haccount
  rw [hv] at hq
  rw [decodePayload, decodePayload, Resource.ofPayload, Resource.ofPayload, hq, hv]
  show (Resource.decode kind (v.inAccount a)).mapError _ =
    ((Resource.decode kind v).mapError _).map _
  rw [hdecode]
  cases Resource.decode kind v <;> rfl

/-- A payload that says an account is decoded to a resource in it. -/
theorem account_of_decodePayload (hp : p.saidOfMeta? "account" = some (.text b))
    (h : decodePayload kind p = .ok r) : r.account = b := by
  have haccount : ObjectMeta.accountField ∈ ObjectMeta.shape.fields.list := .tail _ (.head _)
  have htake : ObjectMeta.accountField.take {} (p.saidOfMeta? "account") = .ok r.account :=
    take_objectMeta h haccount
  rw [hp] at htake
  exact (Except.ok.inj htake).symm

namespace Registry

open Script

variable {reg : Registry} {s t : State}

/-! ## Creating -/

/-- Accepting a payload with another account comes to the same in that account, as long as neither
account is blank. -/
theorem accept_inAccount (ha : a ≠ "") (hb : b ≠ "")
    (hp : p.saidOfMeta? "account" = some (.text b))
    (hq : q.value = p.value.map (Json.inAccount a)) :
    reg.accept kind q = Resource.inAccount (some a) <$> reg.accept kind p := by
  have hdecode : decodePayload kind q = _ := decodePayload_inAccount hp hq
  cases hsent : decodePayload kind p with
  | error e =>
    rw [hsent] at hdecode
    rw [accept, accept, hsent, hdecode]
    rfl
  | ok r =>
    rw [hsent] at hdecode
    -- the check sees an account in either case
    have hcheck : (r.inAccount (some a)).canonical.check reg.maxReplicas =
        r.canonical.check reg.maxReplicas := by
      have hrest : (r.inAccount (some a)).canonical = r.canonical.withRest
          { r.canonical.serverPart with account := a } r.canonical.status := rfl
      rw [hrest]
      refine Resource.check_withRest fun _ => ?_
      have haccount : r.account = b := account_of_decodePayload hp hsent
      show (a != "") = (r.account != "")
      rw [haccount, bne_iff_ne.mpr ha, bne_iff_ne.mpr hb]
    rw [accept_of_decodePayload hsent, accept_of_decodePayload hdecode, hcheck]
    simp only [map_bind, map_pure]
    rfl

/-- A create in the account of a route is a create with that account in the payload. -/
theorem create_inAccount (ha : Id.isNumeral a = true) (hb : b ≠ "")
    (hp : p.saidOfMeta? "account" = some (.text b))
    (hq : q.value = p.value.map (Json.inAccount a)) :
    reg.create kind p (some a) = reg.create kind q none := by
  have hpath : pathAccount a = .ok a := by rw [pathAccount, if_pos ha]
  have hroute : (some a).mapM pathAccount = .ok (some a) := by
    show (pathAccount a >>= fun a => pure (some a)) = _
    rw [hpath]
    rfl
  rw [create_eq, create_eq, accept_inAccount (Id.ne_empty_of_isNumeral ha) hb hp hq, hroute]
  show (reg.accept kind p >>= fun admitted => reg.enter (admitted.inAccount (some a))) =
    ((Resource.inAccount (some a) <$> reg.accept kind p) >>= fun admitted =>
      reg.enter (admitted.inAccount none))
  rw [bind_map_left]
  rfl

/-- **A create in an account route is the plain create of the payload with that account.** For every
state, every account of digits and every payload that says an account which is not blank, both end
with the same answer or the same failure and leave the same state. If they succeed, the answer is in
the account of the route, and so is everything that was stored with it. -/
theorem create_rerouted (reg : Registry) (s : State) (kind : Kind) (ha : Id.isNumeral a = true)
    (hb : b ≠ "") (hp : p.saidOfMeta? "account" = some (.text b))
    (hq : q.value = p.value.map (Json.inAccount a)) :
    (reg.create kind p (some a)).run s = (reg.create kind q none).run s ∧
    ∀ r t, (reg.create kind q none).run s = (.ok r, t) → r.account = a ∧
      ∀ k id c, s.store.get? k id = none → t.store.get? k id = some c → c.account = a := by
  have hcreate : reg.create kind p (some a) = reg.create kind q none :=
    create_inAccount ha hb hp hq
  refine ⟨congrArg (·.run s) hcreate, fun r t hrun => ?_⟩
  rw [← hcreate] at hrun
  have haccount : r.account = a := by
    obtain ⟨route, admitted, hroute, -, henter⟩ := reg.exists_of_run_create hrun
    obtain ⟨rfl, -, -⟩ := reg.exists_of_run_enter henter
    obtain rfl := eq_of_mapM_pathAccount hroute
    rfl
  exact ⟨haccount, fun k id c hnew hc => (account_of_run_create hrun hnew hc).trans haccount⟩

/-- A stack that was sent with the account 9 to the route of the account 12 is created as it is with
the account 12 by the plain route, and its assemblies are in this account. -/
theorem stack_rerouted :
    ∃ r t, (tenReplicas.create .stacksFactory (sentOverreachingStack "9" []) (some "12")).run
        planState = (.ok r, t) ∧
      (tenReplicas.create .stacksFactory (sentOverreachingStack "12" []) none).run planState =
        (.ok r, t) ∧
      ∃ c, t.store.get? .assembly ⟨4⟩ = some c ∧ c.account = "12" := by
  have hsaid : (sentOverreachingStack "9" []).saidOfMeta? "account" = some (.text "9") := rfl
  have hmoved : (sentOverreachingStack "12" []).value =
      (sentOverreachingStack "9" []).value.map (Json.inAccount "12") := rfl
  obtain ⟨hsame, haccounts⟩ := create_rerouted tenReplicas planState .stacksFactory rfl
    (by decide) hsaid hmoved
  have hcreated : ((tenReplicas.create .stacksFactory (sentOverreachingStack "12" []) none).run
      planState).1.isOk = true := by decide +kernel
  have hassembly : (((tenReplicas.create .stacksFactory (sentOverreachingStack "12" []) none).run
      planState).2.store.get? .assembly ⟨4⟩).isSome = true := by decide +kernel
  have hnew : (planState.store.get? .assembly ⟨4⟩).isNone = true := by decide +kernel
  obtain ⟨r, t, hrun⟩ := exists_run_of_isOk hcreated
  rw [hrun] at hassembly
  obtain ⟨c, hc⟩ := Option.isSome_iff_exists.mp hassembly
  have haccount : c.account = "12" :=
    (haccounts r t hrun).2 .assembly ⟨4⟩ c (Option.isNone_iff_eq_none.mp hnew) hc
  exact ⟨r, t, hsame.trans hrun, hrun, c, hc, haccount⟩

end Registry

end ClusterRegistry
