import ClusterRegistry.Proofs.Registry.Requests

/-!
# Reachable states

A registry starts with an empty store and answers one request after the other, whether they
succeed or not; each request arrives at a time of its own and finds readings of its own. What
is stored in a state that is reached in this way is sound (`Registry.Reachable.sound`), by the
contract that every request keeps. Two consequences are spelled out: all references lead to
something that is stored, and everything that is stored would be admitted again and carries what
the server writes.

Nothing is assumed of the source of ids. An id that is missing or taken makes the store refuse
the batch, which costs the request but not the store.
-/

namespace ClusterRegistry

/-- A request together with what the outside world is like when it is served. -/
structure Arrival where
  /-- The present time as it is stamped. -/
  now : String
  /-- The readings of a factory. -/
  metrics : Id → Except MetricsFault (Table String Float)
  request : Request

namespace Registry

variable (reg : Registry)

/-- A registry at the time of an arrival. -/
def during (a : Arrival) : Registry := { reg with now := a.now, metrics := a.metrics }

/-- The script that serves an arrival. -/
def script (a : Arrival) : Script Answer := (reg.during a).serve a.request

/-- The answers to requests that are served one after the other, and the state after them. -/
def answerAll : List Arrival → State → List (Except ApiError Answer) × State
  | [], s => ([], s)
  | a :: rest, s =>
    let first := (reg.script a).run s
    let others := answerAll rest first.2
    (first.1 :: others.1, others.2)

/-- A state that is reached from an empty store. -/
def Reachable (s : State) : Prop :=
  ∃ ids arrivals, (reg.answerAll arrivals ⟨.empty, { ids }⟩).2 = s

/-! ## A registry at work

A plan is created, and then a stack of two assemblies that runs under it. -/

/-- A registry that allows ten replicas. -/
def tenReplicas : Registry := ⟨"v1", 10, noMetrics, ""⟩

/-- A plan as it is sent. -/
def sentPlan : Json.Payload :=
  .ofJson (.object [("object_meta", .object [("name", .text "small")]),
    ("category", .text "application"), ("version", .text "1")])

/-- A stack as it is sent, which runs under the plan with the id 1. -/
def sentStack (replicas : Int) : Json.Payload :=
  .ofJson (.object [("object_meta", .object [("account", .text "9"),
      ("cluster_name", .text "west"), ("name", .text "web")]),
    ("plan", .text "1"), ("replicas", .number (.integer replicas)),
    ("resources", .object [("compute_type", .text "cpu"), ("storage_type", .text "ssd")])])

/-- The arrivals of the plan and of the stack. -/
def planThenStack : List Arrival :=
  [⟨"t1", noMetrics, .create .plan sentPlan none⟩,
    ⟨"t2", noMetrics, .create .stacksFactory (sentStack 2) none⟩]

/-- An empty store and a source that counts from 1. -/
def initialState : State := ⟨.empty, .counting [] ⟨1⟩⟩

/-- The state after the plan and the stack have been created. -/
def stackState : State := (tenReplicas.answerAll planThenStack initialState).2

variable {reg} {s : State} {kind : Kind} {id : Id} {r : Resource}

/-- A run that goes on leads to where its two parts lead. -/
theorem answerAll_append (first rest : List Arrival) (s : State) :
    (reg.answerAll (first ++ rest) s).2 = (reg.answerAll rest (reg.answerAll first s).2).2 := by
  induction first generalizing s with
  | nil => rfl
  | cons a first ih => exact ih ((reg.script a).run s).2

/-- A run that goes on from a reachable state leads to one. -/
theorem Reachable.answerAll (h : reg.Reachable s) (arrivals : List Arrival) :
    reg.Reachable (reg.answerAll arrivals s).2 := by
  obtain ⟨ids, earlier, rfl⟩ := h
  exact ⟨ids, earlier ++ arrivals, answerAll_append earlier arrivals _⟩

/-- One request leaves a sound store sound. -/
theorem sound_run (a : Arrival) (h : s.store.Sound reg.apiVersion reg.maxReplicas) :
    ((reg.script a).run s).2.store.Sound reg.apiVersion reg.maxReplicas :=
  (((reg.during a).keeps_serve a.request).run h).1

/-- Any number of requests leave a sound store sound. -/
theorem sound_answerAll (arrivals : List Arrival)
    (h : s.store.Sound reg.apiVersion reg.maxReplicas) :
    (reg.answerAll arrivals s).2.store.Sound reg.apiVersion reg.maxReplicas := by
  induction arrivals generalizing s with
  | nil => exact h
  | cons a rest ih => exact ih (sound_run a h)

theorem Reachable.sound (h : reg.Reachable s) :
    s.store.Sound reg.apiVersion reg.maxReplicas := by
  obtain ⟨ids, arrivals, rfl⟩ := h
  exact sound_answerAll arrivals Store.sound_empty

/-! ## References -/

/-- Whatever is stored in a reachable state refers to nothing but what is stored: each owner
reference has the name of a kind that may own the resource, under which its owner is stored; no
reference that a field must hold is blank; and what a field refers to is stored under the kind
of the field. -/
theorem references_stored_of_reachable (h : reg.Reachable s)
    (hr : s.store.get? kind id = some r) :
    (∀ o ∈ r.objectMeta.ownerReferences, ∃ parent ∈ r.kind.owners, o.kind = parent.name ∧
      ∃ uid, Id.parse o.uid = .assigned uid ∧ s.store.Has parent uid) ∧
    (∀ f ∈ r.references, f.required = true → f.uid ≠ "") ∧
    (∀ f ∈ r.references, f.uid ≠ "" →
      ∃ uid, Id.parse f.uid = .assigned uid ∧ s.store.Has f.kind uid) := by
  have hlinked : r.Linked s.store.Has := h.sound.linked hr
  exact ⟨hlinked.owners, hlinked.required, hlinked.fields⟩

/-- The factory of a stack is stored, and so are its owner and its plan. -/
theorem references_of_stacked_factory :
    ∃ r, stackState.store.get? .assemblyFactory ⟨3⟩ = some r ∧
      (∀ o ∈ r.objectMeta.ownerReferences, ∃ parent ∈ r.kind.owners, o.kind = parent.name ∧
        ∃ uid, Id.parse o.uid = .assigned uid ∧ stackState.store.Has parent uid) ∧
      (∀ f ∈ r.references, f.required = true → f.uid ≠ "") ∧
      (∀ f ∈ r.references, f.uid ≠ "" →
        ∃ uid, Id.parse f.uid = .assigned uid ∧ stackState.store.Has f.kind uid) := by
  have hreachable : tenReplicas.Reachable stackState := ⟨_, planThenStack, rfl⟩
  have hstored : (stackState.store.get? .assemblyFactory ⟨3⟩).isSome = true := by decide +kernel
  obtain ⟨r, hr⟩ := Option.isSome_iff_exists.mp hstored
  exact ⟨r, hr, references_stored_of_reachable hreachable hr⟩

/-! ## Admission -/

/-- Whatever is stored in a reachable state passes the check, has no blank owner reference, has
a phase, and carries what the server writes. So nothing that its kind needs is missing, a factory
asks for at least one replica and no more than allowed, and the bounds of a policy do not
cross. -/
theorem admissible_of_reachable (h : reg.Reachable s) (hr : s.store.get? kind id = some r) :
    r.check reg.maxReplicas = .ok () ∧
    (∀ o ∈ r.objectMeta.ownerReferences, o.isBlank = false) ∧
    r.status.phase ≠ "" ∧
    r.envelope.typeMeta = ⟨kind.name, reg.apiVersion⟩ ∧
    r.objectMeta.finalizers = ["orphan"] ∧
    r.objectMeta.gracePeriodSeconds = 30 ∧
    r.objectMeta.deletedAt = "" ∧
    r.Complete ∧
    (∀ n, r.replicas = some n → 1 ≤ n ∧ n ≤ reg.maxReplicas) ∧
    (∀ envelope (p : HorizontalScaling), r = ⟨.horizontalScaling, envelope, p⟩ →
      p.spec.minReplicas ≤ p.spec.maxReplicas) := by
  have hsettled := h.sound.settled hr
  obtain ⟨hcomplete, hlimit⟩ := (Resource.check_eq_ok_iff r _).mp hsettled.admissible
  have htyped : r.envelope.typeMeta = ⟨kind.name, reg.apiVersion⟩ := by
    rw [← h.sound.kind_eq hr]
    exact hsettled.typed
  have hreplicas : ∀ n, r.replicas = some n → 1 ≤ n ∧ n ≤ reg.maxReplicas := by
    intro n hn
    refine ⟨hcomplete.replicas_pos hn, ?_⟩
    -- the limit is checked apart from what the catalogue requires
    rw [Resource.exceeds, hn] at hlimit
    exact UInt32.not_lt.mp (of_decide_eq_false hlimit)
  refine ⟨hsettled.admissible, fun o ho => Resource.isBlank_of_check hsettled.admissible ho,
    hsettled.observed, htyped, hsettled.finalizers, hsettled.gracePeriod, hsettled.notDeleted,
    hcomplete, hreplicas, ?_⟩
  rintro envelope p rfl
  exact hcomplete.bounds

/-- An assembly of a stack was never checked, and yet it is admissible. -/
theorem admissible_of_stacked_assembly :
    ∃ r, stackState.store.get? .assembly ⟨4⟩ = some r ∧
      r.check 10 = .ok () ∧
      (∀ o ∈ r.objectMeta.ownerReferences, o.isBlank = false) ∧
      r.status.phase ≠ "" ∧
      r.envelope.typeMeta = ⟨"Assembly", "v1"⟩ ∧
      r.objectMeta.finalizers = ["orphan"] ∧
      r.objectMeta.gracePeriodSeconds = 30 ∧
      r.objectMeta.deletedAt = "" ∧
      r.Complete ∧
      (∀ n, r.replicas = some n → 1 ≤ n ∧ n ≤ 10) ∧
      (∀ envelope (p : HorizontalScaling), r = ⟨.horizontalScaling, envelope, p⟩ →
        p.spec.minReplicas ≤ p.spec.maxReplicas) := by
  have hreachable : tenReplicas.Reachable stackState := ⟨_, planThenStack, rfl⟩
  have hstored : (stackState.store.get? .assembly ⟨4⟩).isSome = true := by decide +kernel
  obtain ⟨r, hr⟩ := Option.isSome_iff_exists.mp hstored
  exact ⟨r, hr, admissible_of_reachable hreachable hr⟩

end Registry

end ClusterRegistry
