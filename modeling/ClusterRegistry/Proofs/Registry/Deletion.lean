import Mathlib.Data.List.Forall2
import ClusterRegistry.Proofs.Registry.Rejected
import ClusterRegistry.Proofs.Registry.Unstamped

/-!
# Runs without their rejected requests

A rejected request leaves no trace, so it may as well not have been made. Where ids are fresh,
leaving all rejected requests out of a run changes neither the state in the end nor any other
answer (`Registry.answerAll_accepted`). What is served then may be served at other times, which
shows in the stamps alone (`Registry.answerAll_unstamped`).
-/

namespace ClusterRegistry

/-- The same request, served with the same readings at a time of its own. -/
def Arrival.SameRequest (a b : Arrival) : Prop := b.request = a.request ∧ b.metrics = a.metrics

/-- An arrival with a blank stamp. -/
def Arrival.unstamped (a : Arrival) : Arrival := { a with now := "" }

theorem Arrival.SameRequest.unstamped_eq {a b : Arrival} (h : a.SameRequest b) :
    b.unstamped = a.unstamped := by
  obtain ⟨hrequest, hmetrics⟩ := h
  simp only [unstamped, hrequest, hmetrics]

theorem Arrival.map_unstamped_eq {arrivals others : List Arrival}
    (h : List.Forall₂ SameRequest arrivals others) :
    others.map unstamped = arrivals.map unstamped := by
  induction h with
  | nil => rfl
  | cons hfirst _ ih => rw [List.map_cons, List.map_cons, hfirst.unstamped_eq, ih]

namespace Registry

variable (reg : Registry) {s : State}

/-- The arrivals that are not rejected when all of them are served. -/
def accepted : List Arrival → State → List Arrival
  | [], _ => []
  | a :: rest, s =>
    let others := accepted rest ((reg.script a).run s).2
    if ((reg.script a).run s).1.isOk then a :: others else others

/-! ## Runs with fresh ids -/

theorem source_answerAll (arrivals : List Arrival) (s : State) :
    s.source.Leads (reg.answerAll arrivals s).2.source := by
  induction arrivals generalizing s with
  | nil => exact .refl _
  | cons a rest ih => exact (Script.source_run _ s).trans (ih _)

/-- A request that is served with fresh ids leaves the state tidy. -/
theorem tidy_run (a : Arrival) (hs : s.Tidy)
    (hfresh : ((reg.script a).run s).2.source.Fresh) : ((reg.script a).run s).2.Tidy := by
  obtain ⟨after, hafter, -⟩ := ((reg.during a).spends_serve a.request).run hs hfresh
  exact hafter.release

theorem tidy_answerAll (arrivals : List Arrival) (hs : s.Tidy)
    (hfresh : (reg.answerAll arrivals s).2.source.Fresh) : (reg.answerAll arrivals s).2.Tidy := by
  induction arrivals generalizing s with
  | nil => exact hs
  | cons a rest ih =>
    exact ih (reg.tidy_run a hs (hfresh.of_leads (reg.source_answerAll rest _))) hfresh

variable {reg}

theorem Reachable.tidy (h : reg.Reachable s) (hfresh : s.source.Fresh) : s.Tidy := by
  obtain ⟨ids, arrivals, rfl⟩ := h
  exact reg.tidy_answerAll arrivals (State.tidy_empty ids) hfresh

/-- With fresh ids a request that is rejected leaves the state as it was. -/
theorem run_eq_of_rejected {a : Arrival} {e : ApiError} {t : State} (hs : s.Tidy)
    (h : (reg.script a).run s = (.error e, t)) (hfresh : t.source.Fresh) : t = s := by
  rcases (reg.during a).traceless_serve a.request s e t h with heq | ⟨-, -, hnot⟩
  · exact heq
  · exact absurd ⟨hs, hfresh⟩ hnot

/-- A run without its rejected requests ends in the same state and gives the other answers. -/
theorem answerAll_accepted (arrivals : List Arrival) (hs : s.Tidy)
    (hfresh : (reg.answerAll arrivals s).2.source.Fresh) :
    reg.answerAll (reg.accepted arrivals s) s =
      ((reg.answerAll arrivals s).1.filter Except.isOk, (reg.answerAll arrivals s).2) := by
  induction arrivals generalizing s with
  | nil => rfl
  | cons a rest ih =>
    have hstep : ((reg.script a).run s).2.source.Fresh :=
      hfresh.of_leads (reg.source_answerAll rest _)
    have hrest := ih (reg.tidy_run a hs hstep) hfresh
    cases hrun : (reg.script a).run s with
    | mk outcome t =>
      rw [hrun] at hstep hrest
      cases outcome with
      | ok answer => simp only [accepted, answerAll, hrun, hrest, Except.isOk, Except.toBool,
          if_true, List.filter_cons]
      | error e =>
        -- the state is as it was, so what follows is served as if nothing had been asked
        obtain rfl : t = s := run_eq_of_rejected hs hrun hstep
        simp only [accepted, answerAll, hrun, hrest, Except.isOk, Except.toBool,
          Bool.false_eq_true, if_false, List.filter_cons]

/-! ## Runs at other times -/

/-- A run on blank stamps, which writes blank stamps, is the same run but for the stamps. -/
theorem answerAll_unstamped (arrivals : List Arrival) (s : State) :
    reg.answerAll (arrivals.map Arrival.unstamped) s.unstamped =
      ((reg.answerAll arrivals s).1.map (Except.map Answer.unstamped),
        (reg.answerAll arrivals s).2.unstamped) := by
  induction arrivals generalizing s with
  | nil => rfl
  | cons a rest ih =>
    have hfirst : (reg.script a.unstamped).run s.unstamped =
        (((reg.script a).run s).1.map Answer.unstamped, ((reg.script a).run s).2.unstamped) :=
      (reg.during a).unstamps_serve a.request s
    simp only [List.map_cons, answerAll, hfirst, ih]

/-- Runs of the same requests at other times differ in the stamps alone. -/
theorem answerAll_otherTimes {arrivals others : List Arrival}
    (h : List.Forall₂ Arrival.SameRequest arrivals others) (s : State) :
    (reg.answerAll others s).1.map (Except.map Answer.unstamped) =
        (reg.answerAll arrivals s).1.map (Except.map Answer.unstamped) ∧
      (reg.answerAll others s).2.unstamped = (reg.answerAll arrivals s).2.unstamped := by
  -- without their stamps both runs are one
  have hothers : reg.answerAll (others.map Arrival.unstamped) s.unstamped = _ :=
    answerAll_unstamped others s
  rw [Arrival.map_unstamped_eq h, answerAll_unstamped] at hothers
  exact ⟨(congrArg Prod.fst hothers).symm, (congrArg Prod.snd hothers).symm⟩

/-! ## No trace -/

/-- A request that is rejected leaves the store as it was, and unless the store has refused its
batch it has drawn no id either. So if the ids that a run draws are fresh, the run without its
rejected requests ends in the same state and gives the same answers; and if what is left of it is
served at other times, both are the same up to the stamps. -/
theorem rejected_leave_no_trace (reg : Registry) :
    (∀ a s e t, (reg.script a).run s = (.error e, t) →
      t.store = s.store ∧ ((∀ cause, e ≠ .storeRefused cause) → t.source = s.source)) ∧
    ∀ arrivals s, reg.Reachable s → (reg.answerAll arrivals s).2.source.Fresh →
      reg.answerAll (reg.accepted arrivals s) s =
          ((reg.answerAll arrivals s).1.filter Except.isOk, (reg.answerAll arrivals s).2) ∧
        ∀ others, List.Forall₂ Arrival.SameRequest (reg.accepted arrivals s) others →
          (reg.answerAll others s).1.map (Except.map Answer.unstamped) =
              ((reg.answerAll arrivals s).1.filter Except.isOk).map
                (Except.map Answer.unstamped) ∧
            (reg.answerAll others s).2.unstamped = (reg.answerAll arrivals s).2.unstamped := by
  constructor
  · intro a s e t h
    rcases (reg.during a).traceless_serve a.request s e t h with rfl | ⟨hstore, ⟨cause, rfl⟩, -⟩
    · exact ⟨rfl, fun _ => rfl⟩
    · exact ⟨hstore, fun hnot => absurd rfl (hnot cause)⟩
  · intro arrivals s hs hfresh
    have htidy : s.Tidy := hs.tidy (hfresh.of_leads (reg.source_answerAll arrivals s))
    have haccepted := answerAll_accepted arrivals htidy hfresh
    refine ⟨haccepted, fun others hothers => ?_⟩
    obtain ⟨hanswers, hstate⟩ := answerAll_otherTimes hothers s
    rw [haccepted] at hanswers hstate
    exact ⟨hanswers, hstate⟩

/-- The arrival of a stack that asks for more replicas than allowed. -/
def oversizedStack : Arrival := ⟨"t1", noMetrics, .create .stacksFactory (sentStack 11) none⟩

/-- A stack that asks for too much is rejected, and the plan and the stack around it are stored as
if it had not been sent. -/
theorem oversized_stack_leaves_no_trace :
    ((tenReplicas.script oversizedStack).run stackState).2.store = stackState.store ∧
    ((tenReplicas.script oversizedStack).run stackState).2.source = stackState.source ∧
    tenReplicas.answerAll planThenStack initialState =
      ((tenReplicas.answerAll (oversizedStack :: planThenStack) initialState).1.filter Except.isOk,
        (tenReplicas.answerAll (oversizedStack :: planThenStack) initialState).2) ∧
    (tenReplicas.answerAll (planThenStack.map Arrival.unstamped) initialState).2.unstamped =
      (tenReplicas.answerAll (oversizedStack :: planThenStack) initialState).2.unstamped := by
  obtain ⟨hone, hruns⟩ := rejected_leave_no_trace tenReplicas
  have hrejected : (tenReplicas.script oversizedStack).run stackState =
      (.error (.missingParameters ["replicas"]), _) := rfl
  obtain ⟨hstore, hsource⟩ := hone oversizedStack stackState _ _ hrejected
  have hreachable : tenReplicas.Reachable initialState := ⟨_, [], rfl⟩
  have hfresh : (tenReplicas.answerAll (oversizedStack :: planThenStack)
      initialState).2.source.Fresh := by decide +kernel
  obtain ⟨hsame, hother⟩ := hruns (oversizedStack :: planThenStack) initialState hreachable hfresh
  have haccepted : tenReplicas.accepted (oversizedStack :: planThenStack) initialState =
      planThenStack := rfl
  rw [haccepted] at hsame hother
  refine ⟨hstore, hsource nofun, hsame, (hother _ ?_).2⟩
  exact .cons ⟨rfl, rfl⟩ (.cons ⟨rfl, rfl⟩ .nil)

end Registry

end ClusterRegistry
