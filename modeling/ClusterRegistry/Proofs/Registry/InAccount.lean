import ClusterRegistry.Proofs.Registry.Effect

/-!
# What is listed in an account

The account of a resource comes from the payload, from the route or from the resource that it came
with, and stays as it is from then on. A list of an account compares the whole text, so that nothing
is listed in two accounts; and it is asked for by a route that takes digits only, so that what is
sent with an account of another form is listed in none (`Registry.listedIn_iff`). What is created in
an account route has digits, and so has whatever comes with it (`Registry.accounts_partition`).
-/

namespace ClusterRegistry

/-- What can be listed in an account needs one. -/
theorem Kind.needsAccount_of_inAccounts {k : Kind} (h : k.row.inAccounts = true) :
    k.row.needsAccount = true := by
  have hrow : ∀ k ∈ all, k.row.inAccounts = true → k.row.needsAccount = true := by decide
  exact hrow k (mem_all k) h

/-- Everything that is created at once is in one account. -/
theorem Resource.account_of_mem_family {r q : Resource} {ids : List Id}
    (h : ids.length = r.childCount) (hq : q ∈ r.family ids) : q.account = r.account := by
  rcases List.mem_cons.mp hq with rfl | hchild
  · rfl
  · exact (sharesWith_of_mem_children h hchild).account

/-- The account of a route has digits only. -/
theorem isNumeral_of_mapM_pathAccount {account route : Option String}
    (h : account.mapM pathAccount = .ok route) : ∀ a, account = some a → Id.isNumeral a = true := by
  rintro raw rfl
  obtain ⟨a, hpath, -⟩ := exists_of_bind_eq_ok (x := pathAccount raw) h
  unfold pathAccount at hpath
  split at hpath
  · next hnumeral => exact hnumeral
  · cases hpath

namespace Registry

open Script

variable {reg : Registry} {s t : State} {kind : Kind} {id : Id} {r : Resource} {a : String}
  {account : Option String} {payload : Json.Payload}

/-- Whether a resource is in the list of an account that is answered in a state. -/
def ListedIn (reg : Registry) (s : State) (kind : Kind) (a : String) (r : Resource) : Prop :=
  ∃ l, (reg.listInAccount kind a).run s = (.ok l, s) ∧ r ∈ l.items

/-! ## Lists of an account -/

/-- An account that is not written in digits is turned away. -/
theorem run_listInAccount_of_not_numeral (h : Id.isNumeral a = false) :
    (reg.listInAccount kind a).run s = (.error (.accountNotNumeric a), s) := by
  have hpath : pathAccount a = .error (.accountNotNumeric a) := by
    rw [pathAccount, h]
    rfl
  rw [listInAccount, hpath]
  rfl

/-- What is stored in an account of digits is answered, unless there is nothing. -/
theorem run_listInAccount (h : Id.isNumeral a = true) :
    (reg.listInAccount kind a).run s =
      (reg.nonemptyList kind (.noneInAccount kind a)
        (s.store.list kind { account := some a }), s) := by
  have hpath : pathAccount a = .ok a := by
    rw [pathAccount, h]
    rfl
  rw [listInAccount, hpath]
  exact run_ofExcept _ s

/-- A stored resource is listed in the account that it bears, if that has digits only, and in no
other. -/
theorem listedIn_iff (hs : s.store.Sound reg.apiVersion reg.maxReplicas)
    (hr : s.store.get? kind id = some r) :
    reg.ListedIn s kind a r ↔ r.account = a ∧ Id.isNumeral a = true := by
  have hlisted : r ∈ s.store.list kind { account := some a } ↔ r.account = a := by
    have hget : s.store.get? kind r.id = some r := by rw [hs.id_eq hr, hr]
    rw [hs.indexed.mem_list_iff, Filter.selects_account_iff]
    exact and_iff_right hget
  rw [← hlisted, ListedIn]
  cases hnumeral : Id.isNumeral a with
  | false =>
    rw [run_listInAccount_of_not_numeral hnumeral]
    simp
  | true =>
    rw [run_listInAccount hnumeral]
    constructor
    · rintro ⟨l, hl, hmem⟩
      obtain ⟨-, rfl⟩ := reg.nonemptyList_eq_ok_iff.mp (congrArg Prod.fst hl)
      exact ⟨hmem, rfl⟩
    · rintro ⟨hmem, -⟩
      refine ⟨reg.asList kind _, Prod.ext ?_ rfl, hmem⟩
      exact reg.nonemptyList_eq_ok_iff.mpr ⟨List.ne_nil_of_mem hmem, rfl⟩

/-! ## Where accounts come from -/

/-- Whatever a create adds is in the account of its answer. -/
theorem account_of_run_create (hrun : (reg.create kind payload account).run s = (.ok r, t))
    {k : Kind} {q : Resource} (hnew : s.store.get? k id = none)
    (hq : t.store.get? k id = some q) : q.account = r.account := by
  obtain ⟨_, _, -, -, henter⟩ := reg.exists_of_run_create hrun
  obtain ⟨-, hinserted, -⟩ := reg.exists_of_run_enter henter
  obtain ⟨e, he, rfl⟩ := Store.get?_eq_some_iff.mp hq
  rcases hinserted.cases he with hold | ⟨q, hmem, -, rfl⟩
  · cases hnew.symm.trans (Store.resourceAt_of_at? hold)
  · exact Resource.account_of_mem_family (IdSource.length_next _ _) hmem

/-- No request moves a resource to another account. -/
theorem account_of_answerAll (hs : s.store.Sound reg.apiVersion reg.maxReplicas)
    (hr : s.store.get? kind id = some r) (arrivals : List Arrival) :
    ∃ r', (reg.answerAll arrivals s).2.store.get? kind id = some r' ∧ r'.account = r.account := by
  obtain ⟨r', hr', hserver⟩ := (grows_answerAll arrivals hs).get? hr
  exact ⟨r', hr', congrArg ServerPart.account hserver⟩

/-- **Accounts divide what is stored.** A resource of a kind that has accounts is in one that is not
blank; it is listed in this account exactly if that is written in digits, and in no other. What is
created in the account of a route is in that account, which is written in digits, and so is all that
comes with it, as all that comes with any create is in the account of the answer. And whatever is
asked later, a resource stays in its account and, if that is written in digits, in its list. -/
theorem accounts_partition (h : reg.Reachable s) :
    (∀ kind id r, s.store.get? kind id = some r →
      (kind.row.inAccounts = true → r.account ≠ "") ∧
      (∀ a, reg.ListedIn s kind a r ↔ r.account = a ∧ Id.isNumeral a = true) ∧
      (Id.isNumeral r.account = false → (reg.listInAccount kind r.account).run s =
        (.error (.accountNotNumeric r.account), s))) ∧
    (∀ kind payload account r t, (reg.create kind payload account).run s = (.ok r, t) →
      (∀ a, account = some a → r.account = a ∧ Id.isNumeral a = true) ∧
      ∀ k id q, s.store.get? k id = none → t.store.get? k id = some q → q.account = r.account) ∧
    ∀ kind id r, s.store.get? kind id = some r → ∀ arrivals u, (reg.answerAll arrivals s).2 = u →
      ∃ r', u.store.get? kind id = some r' ∧ r'.account = r.account ∧
        (Id.isNumeral r.account = true → reg.ListedIn u kind r.account r') := by
  have hs := h.sound
  refine ⟨fun kind id r hr => ?_, fun kind payload account r t hrun => ?_, ?_⟩
  · refine ⟨fun hkind => ?_, fun a => listedIn_iff hs hr, run_listInAccount_of_not_numeral⟩
    have hcomplete := ((Resource.check_eq_ok_iff r _).mp (hs.settled hr).admissible).1
    refine hcomplete.account ?_
    rw [hs.kind_eq hr]
    exact Kind.needsAccount_of_inAccounts hkind
  · obtain ⟨_, _, hroute, -, -⟩ := reg.exists_of_run_create hrun
    obtain ⟨-, -, haccount, -⟩ := admitted_of_run_create hs hrun
    have hnumeral := isNumeral_of_mapM_pathAccount hroute
    exact ⟨fun a ha => ⟨haccount a ha, hnumeral a ha⟩,
      fun k id q => account_of_run_create hrun⟩
  · rintro kind id r hr arrivals u rfl
    obtain ⟨r', hr', haccount⟩ := account_of_answerAll hs hr arrivals
    refine ⟨r', hr', haccount, fun hnumeral => ?_⟩
    exact (listedIn_iff (sound_answerAll arrivals hs) hr').mpr ⟨haccount, hnumeral⟩

/-- The assemblies of the stack are listed in the account that was sent with the stack, which has
one spelling only. -/
theorem accounts_partition_stack :
    ∃ r, stackState.store.get? .assembly ⟨4⟩ = some r ∧
      tenReplicas.ListedIn stackState .assembly "9" r ∧
      ¬ tenReplicas.ListedIn stackState .assembly "09" r := by
  have hreachable : tenReplicas.Reachable stackState := ⟨_, planThenStack, rfl⟩
  have haccount : (stackState.store.get? .assembly ⟨4⟩).map (·.account) = some "9" := by
    decide +kernel
  obtain ⟨r, hr, haccount⟩ := Option.map_eq_some_iff.mp haccount
  obtain ⟨hlisted, -⟩ := accounts_partition hreachable
  obtain ⟨-, hiff, -⟩ := hlisted .assembly ⟨4⟩ r hr
  refine ⟨r, hr, (hiff "9").mpr ⟨haccount, rfl⟩, fun hother => ?_⟩
  have hsame : "9" = "09" := haccount.symm.trans ((hiff "09").mp hother).1
  exact absurd hsame (by decide)

/-- A secret as it is sent, in an account that has a name. -/
def sentSecret : Json.Payload :=
  .ofJson (.object [("metadata", .object [("origin", .text "system")]),
    ("object_meta", .object [("account", .text "acme"), ("name", .text "key")]),
    ("secret_type", .text "opaque")])

/-- The state after the secret was created. -/
def secretState : State := (tenReplicas.answerAll
  [⟨"t1", noMetrics, .create .secret sentSecret none⟩] initialState).2

/-- The secret is stored in its account, and is not listed there. -/
theorem named_account_not_listed :
    ¬ ∀ (reg : Registry) (s : State) (kind : Kind) (id : Id) (r : Resource), reg.Reachable s →
      kind.row.inAccounts = true → s.store.get? kind id = some r →
      reg.ListedIn s kind r.account r ∧ ∀ a, reg.ListedIn s kind a r → a = r.account := by
  intro hall
  have hreachable : tenReplicas.Reachable secretState := ⟨_, _, rfl⟩
  have haccount : (secretState.store.get? .secret ⟨1⟩).map (·.account) = some "acme" := by
    decide +kernel
  obtain ⟨r, hr, haccount⟩ := Option.map_eq_some_iff.mp haccount
  obtain ⟨hlisted, -⟩ := hall tenReplicas secretState .secret ⟨1⟩ r hreachable rfl hr
  have hnumeral := ((listedIn_iff hreachable.sound hr).mp hlisted).2
  rw [haccount] at hnumeral
  cases hnumeral

end Registry

end ClusterRegistry
