import ClusterRegistry.Proofs.Registry.Deletion
import ClusterRegistry.Proofs.Store.History

/-!
# Requests that take turns

In a `Pool` any number of requests are under way at once. They take turns in any order, and in each
turn one of them makes one call. An update writes a copy that it has read many calls ago, and
a status may have been written in between. Yet nothing is overwritten that should not be: what
the copy holds of the status is ignored by the store, and what it holds of the server's part has
not changed since it was read.

The invariant is `Pool.Coherent`: the store is sound, every caller still keeps the contract on
which the store is shared, and each part of what is stored is told by the log. One turn preserves
it (`Pool.Coherent.turn`), and so does any number of them.
-/

namespace ClusterRegistry

/-! ## Pools -/

/-- Requests that are under way, and what they have done so far. -/
structure Pool where
  state : State
  /-- What is left to do of each request. -/
  callers : List (Script Answer)
  /-- The calls that were made, the latest first. -/
  log : List Event

namespace Pool

/-- The turn of one caller, who makes the next call of its request. One who is at the end of it,
or is not there, does nothing. -/
def turn (p : Pool) (i : Nat) : Pool :=
  match p.callers[i]? with
  | some (.call c next) =>
    { state := (c.answer p.state).2
      callers := p.callers.set i (next (c.answer p.state).1)
      log := c.event p.state i :: p.log }
  | _ => p

/-- Any number of turns, in the given order. -/
def run (p : Pool) (turns : List Nat) : Pool := turns.foldl turn p

/-- A turn makes one call, or nothing happens. -/
theorem turn_cases (p : Pool) (i : Nat) :
    p.turn i = p ∨ ∃ c next, p.callers[i]? = some (.call c next) ∧
      p.turn i =
        { state := (c.answer p.state).2
          callers := p.callers.set i (next (c.answer p.state).1)
          log := c.event p.state i :: p.log } := by
  unfold turn
  split
  · next c next h => exact .inr ⟨c, next, h, rfl⟩
  · exact .inl rfl

theorem source_turn (p : Pool) (i : Nat) : p.state.source.Leads (p.turn i).state.source := by
  rcases p.turn_cases i with h | ⟨c, next, -, h⟩
  · rw [h]
    exact .refl _
  · rw [h]
    exact Call.source_answer c p.state

theorem source_runTurns (p : Pool) (turns : List Nat) :
    p.state.source.Leads (p.run turns).state.source := by
  induction turns generalizing p with
  | nil => exact .refl _
  | cons i rest ih => exact (p.source_turn i).trans (ih (p.turn i))

/-- What is left of a caller's request after one of them has made a call. -/
theorem callers_set {callers : List (Script Answer)} {i j : Nat} {x y : Script Answer}
    (h : (callers.set i x)[j]? = some y) : j = i ∧ y = x ∨ j ≠ i ∧ callers[j]? = some y := by
  by_cases hij : i = j
  · subst hij
    rw [List.getElem?_set_self'] at h
    obtain ⟨_, -, heq⟩ := Option.map_eq_some_iff.mp h
    exact .inl ⟨rfl, heq.symm⟩
  · rw [List.getElem?_set_ne hij] at h
    exact .inr ⟨Ne.symm hij, h⟩

end Pool

/-- The pool in which all arrivals are under way and none has made a call. -/
def Registry.pool (reg : Registry) (arrivals : List Arrival) (s : State) : Pool :=
  ⟨s, arrivals.map reg.script, []⟩

/-! ## Coherence -/

/-- What a pool holds is told by its log: it started with some arrivals in some state, and each
part of a resource is what was written last of it, or else what it was in the beginning. -/
structure Pool.Faithful (reg : Registry) (arrivals : List Arrival) (s : State) (p : Pool) :
    Prop where
  /-- Nothing was written but on behalf of the caller who wrote it. -/
  issued : ∀ e ∈ p.log, e.call.writes = true → ∃ a, arrivals[e.caller]? = some a ∧
    (reg.during a).Issues a.request e.call
  status : ∀ a, (p.state.store.resourceAt a).map (·.status) =
    (p.log.findSome? (Event.status? a)).or ((s.store.resourceAt a).map (·.status))
  clientPart : ∀ a, (p.state.store.resourceAt a).map (·.clientPart) =
    (p.log.findSome? (Event.clientPart? a)).or ((s.store.resourceAt a).map (·.clientPart))
  serverPart : ∀ a, (p.state.store.resourceAt a).map (·.serverPart) =
    (p.log.findSome? (Event.serverPart? a)).or ((s.store.resourceAt a).map (·.serverPart))
  /-- Nothing was lost, and everything new was stored once. -/
  addresses : p.state.store.addresses.Perm
    (s.store.addresses ++ p.log.flatMap Event.newAddresses)

/-- The invariant of a pool: it is faithful, its store is sound, and every caller has seen an
earlier store and has kept the contract since. -/
structure Pool.Coherent (reg : Registry) (arrivals : List Arrival) (s : State) (p : Pool) : Prop
    extends p.Faithful reg arrivals s where
  sound : p.state.store.Sound reg.apiVersion reg.maxReplicas
  keeps : ∀ (i : Nat) (x : Script Answer), p.callers[i]? = some x → ∃ a, arrivals[i]? = some a ∧
    ∃ t : State, t.store.Grows p.state.store ∧
      x.Keeps (sharedStore reg.apiVersion reg.maxReplicas ((reg.during a).Issues a.request))
        (fun _ _ => True) t

namespace Pool

variable {reg : Registry} {arrivals : List Arrival} {s : State} {p : Pool}

theorem coherent_pool (arrivals : List Arrival)
    (hs : s.store.Sound reg.apiVersion reg.maxReplicas) :
    Coherent reg arrivals s (reg.pool arrivals s) where
  sound := hs
  keeps i x hx := by
    obtain ⟨a, ha, rfl⟩ := Option.map_eq_some_iff.mp (List.getElem?_map.symm.trans hx)
    exact ⟨a, ha, s, .refl _, (reg.during a).keeps_serve a.request⟩
  issued _ he := absurd he List.not_mem_nil
  status _ := rfl
  clientPart _ := rfl
  serverPart _ := rfl
  addresses := by
    show s.store.addresses.Perm (s.store.addresses ++ [])
    rw [List.append_nil]

/-- What a part is told by, once a call has been added to the log. -/
private theorem findSome?_cons_or {α : Type} (f : Event → Option α) (e : Event) (log : List Event)
    (initial : Option α) :
    ((e :: log).findSome? f).or initial = (f e).or ((log.findSome? f).or initial) := by
  rw [List.findSome?_cons]
  cases f e <;> rfl

/-- A turn preserves coherence. -/
theorem Coherent.turn (h : p.Coherent reg arrivals s) (i : Nat) :
    (p.turn i).Coherent reg arrivals s := by
  rcases p.turn_cases i with heq | ⟨c, next, hcaller, heq⟩
  · rw [heq]
    exact h
  · rw [heq]
    -- since the caller's last turn the store has only grown, which the contract allows for
    obtain ⟨a, ha, t, hgrows, hkeeps⟩ := h.keeps i _ hcaller
    obtain ⟨⟨hlawful, hown⟩, hnext⟩ := hkeeps p.state hgrows h.sound
    obtain ⟨hsound, hstep⟩ := Call.Lawful.answer h.sound hlawful
    refine ⟨⟨?_, ?_, ?_, ?_, ?_⟩, hsound, ?_⟩
    · exact List.forall_mem_cons.mpr ⟨fun hwrites => ⟨a, ha, hown hwrites⟩, h.issued⟩
    · intro b
      rw [findSome?_cons_or, ← h.status b]
      exact Call.status_answer c p.state i b
    · intro b
      rw [findSome?_cons_or, ← h.clientPart b]
      exact Call.clientPart_answer c p.state i b
    · intro b
      rw [findSome?_cons_or, ← h.serverPart b]
      exact Call.serverPart_answer c p.state i b hlawful
    · rw [List.flatMap_cons]
      refine (Call.addresses_answer c p.state i).trans ((h.addresses.append_right _).trans ?_)
      rw [List.append_assoc]
      exact List.perm_append_comm.append_left _
    · intro j x hx
      rcases callers_set hx with ⟨rfl, rfl⟩ | ⟨-, hx⟩
      · exact ⟨a, ha, _, .refl _, hnext⟩
      · -- the others wait, and what they have seen has grown by one more step
        obtain ⟨b, hb, u, hgrows, hkeeps⟩ := h.keeps j x hx
        exact ⟨b, hb, u, hgrows.trans hstep, hkeeps⟩

/-- Any number of turns preserve coherence. -/
theorem Coherent.run (h : p.Coherent reg arrivals s) (turns : List Nat) :
    (p.run turns).Coherent reg arrivals s := by
  induction turns generalizing p with
  | nil => exact h
  | cons i rest ih => exact ih (h.turn i)

/-! ## Ids -/

/-- Every caller holds ids of its own, which it will spend, and no batch was refused so far. -/
structure Accounted (p : Pool) (held : Nat → List Id) : Prop where
  spends : ∀ (i : Nat) (x : Script Answer), p.callers[i]? = some x →
    x.Spends (fun _ _ => True) (held i)
  accounts : ∀ i, p.state.Accounts (held i) fun id => ∃ j, j ≠ i ∧ id ∈ held j
  accepted : ∀ e ∈ p.log, e.call.Accepted e.reply

theorem accounted_pool (arrivals : List Arrival) (hs : s.Tidy) :
    (reg.pool arrivals s).Accounted fun _ => [] where
  spends i x hx := by
    obtain ⟨a, -, rfl⟩ := Option.map_eq_some_iff.mp (List.getElem?_map.symm.trans hx)
    exact (reg.during a).spends_serve a.request
  accounts i := by
    refine State.Accounts.imp hs fun id hid => ?_
    obtain ⟨j, -, hmem⟩ := hid
    exact absurd hmem List.not_mem_nil
  accepted _ he := absurd he List.not_mem_nil

/-- The accounts of all callers after one of them holds something else. -/
theorem accounts_update {s t : State} {held : Nat → List Id} {i : Nat} {after : List Id}
    (h : ∀ k, s.Accounts (held k) fun id => ∃ j, j ≠ k ∧ id ∈ held j)
    (hafter : t.Accounts after fun id => ∃ j, j ≠ i ∧ id ∈ held j) (k : Nat) :
    t.Accounts (if k = i then after else held k)
      fun id => ∃ j, j ≠ k ∧ id ∈ if j = i then after else held j := by
  by_cases hki : k = i
  · subst hki
    rw [if_pos rfl]
    apply hafter.imp
    intro id hid
    obtain ⟨j, hj, hmem⟩ := hid
    rw [if_neg hj] at hmem
    exact ⟨j, hj, hmem⟩
  · rw [if_neg hki]
    -- whatever others hold is held by this caller or by others than it
    have hothers : ∀ id, (∃ j, j ≠ k ∧ id ∈ if j = i then after else held j) →
        id ∈ after ∨ ∃ j, j ≠ k ∧ j ≠ i ∧ id ∈ held j := by
      rintro id ⟨j, hj, hmem⟩
      by_cases hji : j = i
      · rw [if_pos hji] at hmem
        exact .inl hmem
      · rw [if_neg hji] at hmem
        exact .inr ⟨j, hj, hji, hmem⟩
    refine ⟨(h k).distinct, ?_, ?_, ?_⟩
    · rintro id (hid | hid)
      · exact hafter.drawn id (.inr ⟨k, hki, hid⟩)
      · rcases hothers id hid with hmem | ⟨j, -, hji, hmem⟩
        · exact hafter.drawn id (.inl hmem)
        · exact hafter.drawn id (.inr ⟨j, hji, hmem⟩)
    · intro id hid hother
      rcases hothers id hother with hmem | ⟨j, hj, -, hmem⟩
      · exact hafter.apart id hmem ⟨k, hki, hid⟩
      · exact (h k).apart id hid ⟨j, hj, hmem⟩
    · intro a ha
      obtain ⟨hgave, hnot, hnone⟩ := hafter.stored a ha
      refine ⟨hgave, fun hid => hnone ⟨k, hki, hid⟩, fun hother => ?_⟩
      rcases hothers a.id hother with hmem | ⟨j, -, hji, hmem⟩
      · exact hnot hmem
      · exact hnone ⟨j, hji, hmem⟩

/-- With fresh ids a turn keeps the accounts in order. -/
theorem Accounted.turn {held : Nat → List Id} (h : p.Accounted held) (i : Nat)
    (hfresh : (p.turn i).state.source.Fresh) : ∃ after, (p.turn i).Accounted after := by
  rcases p.turn_cases i with heq | ⟨c, next, hcaller, heq⟩
  · rw [heq]
    exact ⟨held, h⟩
  · rw [heq] at hfresh ⊢
    obtain ⟨hspends, hnext⟩ := h.spends i _ hcaller
    obtain ⟨haccepted, hafter⟩ := (h.accounts i).answer hspends hfresh
    refine ⟨_, ?_, accounts_update h.accounts hafter, ?_⟩
    · intro j x hx
      rcases callers_set hx with ⟨rfl, rfl⟩ | ⟨hji, hx⟩
      · rw [if_pos rfl]
        exact hnext _ haccepted
      · rw [if_neg hji]
        exact h.spends j x hx
    · exact List.forall_mem_cons.mpr ⟨haccepted, h.accepted⟩

theorem Accounted.run {held : Nat → List Id} (h : p.Accounted held) (turns : List Nat)
    (hfresh : (p.run turns).state.source.Fresh) : ∃ after, (p.run turns).Accounted after := by
  induction turns generalizing p held with
  | nil => exact ⟨held, h⟩
  | cons i rest ih =>
    obtain ⟨after, hafter⟩ := h.turn i (hfresh.of_leads (source_runTurns (p.turn i) rest))
    exact ih hafter hfresh

/-! ## Any order of turns -/

/-- Requests that are under way at the same time do not corrupt each other's writes, in whatever
order they take turns. The status of a resource is the one that was written last or that it was
created with; what clients write is that of the last update or of its creation; what the server
settles is that of its creation. Nothing is lost or stored twice, no batch is refused, and
everything stored passes the check and refers to nothing but what is stored. -/
theorem faithful_of_turns (h : reg.Reachable s) (arrivals : List Arrival) (turns : List Nat)
    (hfresh : ((reg.pool arrivals s).run turns).state.source.Fresh) :
    ((reg.pool arrivals s).run turns).Faithful reg arrivals s ∧
    ((reg.pool arrivals s).run turns).state.store.addresses.Nodup ∧
    (∀ e ∈ ((reg.pool arrivals s).run turns).log, e.call.Accepted e.reply) ∧
    ∀ kind id r, ((reg.pool arrivals s).run turns).state.store.get? kind id = some r →
      r.check reg.maxReplicas = .ok () ∧
        r.Linked ((reg.pool arrivals s).run turns).state.store.Has := by
  have hcoherent := (coherent_pool arrivals h.sound).run turns
  have htidy : s.Tidy := h.tidy (hfresh.of_leads (source_runTurns (reg.pool arrivals s) turns))
  have hstart : (reg.pool arrivals s).Accounted fun _ => [] := accounted_pool arrivals htidy
  obtain ⟨held, haccounted⟩ := hstart.run turns hfresh
  refine ⟨hcoherent.toFaithful, Store.addresses_nodup _, haccounted.accepted, ?_⟩
  intro kind id r hr
  exact ⟨(hcoherent.sound.settled hr).admissible, hcoherent.sound.linked hr⟩

/-- A node as it is sent, at an address. -/
def sentNode (ip : String) : Json.Payload :=
  .ofJson (.object [("object_meta", .object [("name", .text "n1")]), ("node_ip", .text ip)])

/-- A status as it is sent. -/
def sentReady : Json.Payload :=
  .ofJson (.object [("status", .object [("phase", .text "ready")])])

/-- The state after a node was created. -/
def nodeState : State :=
  (Registry.tenReplicas.answerAll [⟨"t1", noMetrics, .create .node (sentNode "10.0.0.1") none⟩]
    Registry.initialState).2

/-- An update of the node and a status of it, under way at the same time. -/
def updateAndStatus : List Arrival :=
  [⟨"t2", noMetrics, .update .node "1" (sentNode "10.0.0.2")⟩,
    ⟨"t2", noMetrics, .setStatus .node "1" sentReady⟩]

/-- The status is written after the update has read the node and before it writes it back. -/
def racedPool : Pool := (Registry.tenReplicas.pool updateAndStatus nodeState).run [0, 1, 0]

/-- The update that has read an older status does not overwrite the newer one. -/
theorem faithful_of_race :
    racedPool.Faithful Registry.tenReplicas updateAndStatus nodeState ∧
    racedPool.state.store.addresses.Nodup ∧
    (∀ e ∈ racedPool.log, e.call.Accepted e.reply) ∧
    (∀ kind id r, racedPool.state.store.get? kind id = some r →
      r.check 10 = .ok () ∧ r.Linked racedPool.state.store.Has) ∧
    (racedPool.state.store.resourceAt ⟨.node, ⟨1⟩⟩).map (·.status.phase) = some "ready" ∧
    racedPool.log.map (·.caller) = [0, 1, 0] := by
  have hreachable : Registry.tenReplicas.Reachable nodeState := ⟨_, _, rfl⟩
  have hfresh : racedPool.state.source.Fresh := by decide +kernel
  obtain ⟨hfaithful, hnodup, haccepted, hsound⟩ :=
    faithful_of_turns hreachable updateAndStatus [0, 1, 0] hfresh
  exact ⟨hfaithful, hnodup, haccepted, hsound, by decide +kernel, by decide +kernel⟩

end Pool

end ClusterRegistry
