import Mathlib.Data.List.Nodup
import Mathlib.Data.List.Infix
import ClusterRegistry.Id.Counter

/-!
# Ids from the clock are new

The calls for an id share one counter and take turns in any order. A call may have read the clock
long before its attempt succeeds, and other calls may have moved the counter on since. What makes
its id new is the counter alone: the attempt succeeds only on the counter as the call has seen it,
and then moves it to the id, which is larger.

A turn moves the counter on to one new id, or leaves counter and ids as they are
(`Counter.step_cases`). So the counter bounds the ids that were given out, which are distinct
(`Counter.Bounds`), and each call is sure of an id above the counter as it was when the call
started (`Draw.Serves`). Both hold after any turns, and together they are the statement about
runs (`Counter.ids_new`).
-/

namespace ClusterRegistry.Id

/-! ## The id that is asked for -/

variable {floor bound last : UInt64}

theorem floor_le_nextAbove : floor ≤ nextAbove floor last := by
  unfold nextAbove
  rw [UInt64.max_def]
  split
  · next h => exact h
  · exact UInt64.le_refl floor

theorem lt_nextAbove (h : last.toNat + 1 < UInt64.size) : last < nextAbove floor last := by
  have hnext : (last + 1).toNat = last.toNat + 1 := by
    rw [UInt64.toNat_add]
    exact Nat.mod_eq_of_lt h
  unfold nextAbove
  rw [UInt64.max_def, UInt64.lt_iff_toNat_lt]
  split
  · omega
  · next hle =>
    rw [UInt64.le_iff_toNat_le] at hle
    omega

/-- Before the year 2109 no bit of the time is lost. -/
theorem toNat_firstOf {millis : Int} (h : millis < Decimal.twoPow 42) :
    (firstOf millis).toNat = millis.toNat <<< counterBits := by
  have hpos : 0 < Decimal.twoPow 42 := by decide
  have hmillis : millis.toNat < Decimal.twoPow 42 := by omega
  rw [firstOf, UInt64.toNat_ofNat', Nat.mod_eq_of_lt]
  rw [Nat.shiftLeft_eq]
  calc millis.toNat * 2 ^ counterBits
      < Decimal.twoPow 42 * 2 ^ counterBits := Nat.mul_lt_mul_of_pos_right hmillis (by decide)
    _ = UInt64.size := rfl

/-! ## One call -/

namespace Draw

/-- Whether a call is on its way to an id from `floor` on and above `bound`, or has answered one. -/
def Serves (floor bound : UInt64) : Draw → Prop
  | .started f => f = floor
  | .looked f _ => f = floor
  | .answered id => floor ≤ id ∧ bound < id

/-- A step of a call moves the counter on to the id that is answered, or leaves the counter and
what was answered as they are. -/
theorem advance_cases (h : last.toNat + 1 < UInt64.size) (fails : Bool) (d : Draw) :
    ((d.advance last fails).1.id? = d.id? ∧ (d.advance last fails).2 = last) ∨
    (d.id? = none ∧ (d.advance last fails).1.id? = some (d.advance last fails).2 ∧
      last < (d.advance last fails).2) := by
  cases d with
  | started floor => exact .inl ⟨rfl, rfl⟩
  | looked floor seen =>
    rw [advance]
    split
    · exact .inr ⟨rfl, rfl, lt_nextAbove h⟩
    · exact .inl ⟨rfl, rfl⟩
  | answered id => exact .inl ⟨rfl, rfl⟩

theorem Serves.advance {d : Draw} (hd : d.Serves floor bound) (h : last.toNat + 1 < UInt64.size)
    (hbound : bound ≤ last) (fails : Bool) : (d.advance last fails).1.Serves floor bound := by
  cases d with
  | started f => exact hd
  | looked f seen =>
    cases hd
    rw [Draw.advance]
    split
    · exact ⟨floor_le_nextAbove, UInt64.lt_of_le_of_lt hbound (lt_nextAbove h)⟩
    · rfl
  | answered id => exact hd

end Draw

/-! ## One turn -/

namespace Counter

variable {c : Counter} {turns : List Turn}

/-- What is found in a list when one item of it has been replaced. -/
private theorem filterMap_set {α β : Type} (f : α → Option β) {l : List α} {i : Nat} {a b : α}
    (h : l[i]? = some a) :
    (f a = f b → (l.set i b).filterMap f = l.filterMap f) ∧
    ∀ y, f a = none → f b = some y → ((l.set i b).filterMap f).Perm (y :: l.filterMap f) := by
  obtain ⟨hi, rfl⟩ := List.getElem?_eq_some_iff.mp h
  have hsplit : l = l.take i ++ l[i] :: l.drop (i + 1) := by
    rw [List.getElem_cons_drop, List.take_append_drop]
  have hset : l.set i b = l.take i ++ b :: l.drop (i + 1) :=
    List.set_eq_take_append_cons_drop.trans (if_pos hi)
  rw [hset]
  constructor
  · intro heq
    conv_rhs => rw [hsplit]
    rw [List.filterMap_append, List.filterMap_append, List.filterMap_cons, List.filterMap_cons, heq]
  · intro y hnone hsome
    conv_rhs => rw [hsplit]
    rw [List.filterMap_append, List.filterMap_append, List.filterMap_cons_some hsome,
      List.filterMap_cons_none hnone]
    exact List.perm_middle

/-- A turn moves the counter on to one new id, or leaves the counter and the ids as they are. -/
theorem step_cases (h : c.last.toNat + 1 < UInt64.size) (t : Turn) :
    ((c.step t).last = c.last ∧ (c.step t).ids = c.ids) ∨
    (c.last < (c.step t).last ∧ (c.step t).ids.Perm ((c.step t).last :: c.ids)) := by
  cases t with
  | start millis =>
    refine .inl ⟨rfl, ?_⟩
    rw [step, ids, Array.toList_push, List.filterMap_append]
    exact List.append_nil _
  | advance call fails =>
    rw [step]
    split
    · exact .inl ⟨rfl, rfl⟩
    · next d hd =>
      rw [← Array.getElem?_toList] at hd
      have hset := filterMap_set Draw.id? (b := (d.advance c.last fails).1) hd
      rcases d.advance_cases h fails with ⟨hid, hlast⟩ | ⟨hnone, hid, hlast⟩
      · refine .inl ⟨hlast, ?_⟩
        rw [ids, Array.toList_setIfInBounds]
        exact hset.1 hid.symm
      · refine .inr ⟨hlast, ?_⟩
        rw [ids, Array.toList_setIfInBounds]
        exact hset.2 _ hnone hid

/-- The counter never goes back. -/
theorem last_le_step (h : c.last.toNat + 1 < UInt64.size) (t : Turn) :
    c.last ≤ (c.step t).last := by
  rcases step_cases h t with ⟨hlast, -⟩ | ⟨hlast, -⟩
  · exact UInt64.le_of_eq hlast.symm
  · exact UInt64.le_of_lt hlast

/-- Whether the ids that a counter has given out are distinct numbers from one to where it is. -/
structure Bounds (c : Counter) : Prop where
  pos : ∀ id ∈ c.ids, 0 < id
  le_last : ∀ id ∈ c.ids, id ≤ c.last
  nodup : c.ids.Nodup

theorem Bounds.step (hc : c.Bounds) (h : c.last.toNat + 1 < UInt64.size) (t : Turn) :
    (c.step t).Bounds := by
  rcases step_cases h t with ⟨hlast, hids⟩ | ⟨hlast, hids⟩
  · exact ⟨hids ▸ hc.pos, hids ▸ hlast ▸ hc.le_last, hids ▸ hc.nodup⟩
  · refine ⟨fun id hid => ?_, fun id hid => ?_,
      hids.nodup_iff.mpr (List.nodup_cons.mpr ⟨?_, hc.nodup⟩)⟩
    · rcases List.mem_cons.mp (hids.mem_iff.mp hid) with rfl | hid
      · exact UInt64.lt_of_le_of_lt UInt64.zero_le hlast
      · exact hc.pos id hid
    · rcases List.mem_cons.mp (hids.mem_iff.mp hid) with rfl | hid
      · exact UInt64.le_refl _
      · exact UInt64.le_of_lt (UInt64.lt_of_le_of_lt (hc.le_last id hid) hlast)
    · -- the new id is above the counter, and the others are not
      intro hmem
      exact UInt64.not_le.mpr hlast (hc.le_last _ hmem)

/-- What stands for a call after a turn: the call has just started, or it is where a step has
brought it, or it is where it was. -/
theorem exists_of_step {t : Turn} {k : Nat} {d : Draw} (h : (c.step t).draws[k]? = some d) :
    (∃ millis, t = .start millis ∧ k = c.draws.size ∧ d = .started (firstOf millis)) ∨
    (∃ d' fails, c.draws[k]? = some d' ∧ d = (d'.advance c.last fails).1) ∨
    c.draws[k]? = some d := by
  cases t with
  | start millis =>
    rw [step, Array.getElem?_push] at h
    split at h
    · next hk => exact .inl ⟨millis, rfl, hk, (Option.some.inj h).symm⟩
    · exact .inr (.inr h)
  | advance call fails =>
    rw [step] at h
    split at h
    · exact .inr (.inr h)
    · next d' hd' =>
      rw [Array.getElem?_setIfInBounds] at h
      split at h
      · next hcall =>
        subst hcall
        split at h
        · exact .inr (.inl ⟨d', fails, hd', (Option.some.inj h).symm⟩)
        · cases h
      · exact .inr (.inr h)

/-! ## Any turns -/

/-- Whether a new counter stays below the largest word all through some turns. -/
def StaysBelow (turns : List Turn) : Prop :=
  ∀ before ∈ turns.inits, (run {} before).last.toNat + 1 < UInt64.size

instance (turns : List Turn) : Decidable (StaysBelow turns) :=
  inferInstanceAs (Decidable (∀ before ∈ turns.inits, (run {} before).last.toNat + 1 < UInt64.size))

theorem StaysBelow.of_append {before after : List Turn} (h : StaysBelow (before ++ after)) :
    StaysBelow before := fun first hfirst =>
  h first (List.mem_inits _ _ |>.mpr
    (((List.mem_inits _ _).mp hfirst).trans (List.prefix_append before after)))

theorem StaysBelow.last_lt (h : StaysBelow turns) : (run {} turns).last.toNat + 1 < UInt64.size :=
  h turns ((List.mem_inits _ _).mpr List.prefix_rfl)

theorem run_append_singleton (c : Counter) (turns : List Turn) (t : Turn) :
    c.run (turns ++ [t]) = (c.run turns).step t := by
  rw [run, run, List.foldl_append, List.foldl_cons, List.foldl_nil]

/-- The ids that were given out after any turns are bounded by the counter. -/
theorem bounds_run (h : StaysBelow turns) : (run {} turns).Bounds := by
  induction turns using List.reverseRecOn with
  | nil =>
    exact ⟨fun _ hid => absurd hid List.not_mem_nil,
      fun _ hid => absurd hid List.not_mem_nil, .nil⟩
  | append_singleton before t ih =>
    rw [run_append_singleton]
    exact (ih h.of_append).step h.of_append.last_lt t

/-- Every call started in some turn, and is sure of an id above the counter as it was then. -/
theorem serves_run (h : StaysBelow turns) {k : Nat} {d : Draw}
    (hd : (run {} turns).draws[k]? = some d) :
    ∃ (before : List Turn) (millis : Int) (after : List Turn),
        turns = before ++ .start millis :: after ∧
      (run {} before).draws.size = k ∧ (run {} before).last ≤ (run {} turns).last ∧
      d.Serves (firstOf millis) (run {} before).last := by
  induction turns using List.reverseRecOn generalizing d with
  | nil => cases hd
  | append_singleton earlier t ih =>
    have hroom := h.of_append.last_lt
    rw [run_append_singleton] at hd ⊢
    rcases exists_of_step hd with ⟨millis, rfl, rfl, rfl⟩ | ⟨d', fails, hd', rfl⟩ | hd'
    · exact ⟨earlier, millis, [], rfl, rfl, last_le_step hroom _, rfl⟩
    · obtain ⟨before, millis, after, rfl, hk, hle, hserves⟩ := ih h.of_append hd'
      refine ⟨before, millis, after ++ [t], by simp, hk, ?_, hserves.advance hroom hle fails⟩
      exact UInt64.le_trans hle (last_le_step hroom t)
    · obtain ⟨before, millis, after, rfl, hk, hle, hserves⟩ := ih h.of_append hd'
      exact ⟨before, millis, after ++ [t], by simp, hk, UInt64.le_trans hle (last_le_step hroom t),
        hserves⟩

/-- **Ids never repeat and never go back.** Whatever turns any number of calls take on a new
counter, whatever the clock shows them and however often an attempt fails for no reason, as long as
the counter stays below the largest word: no id is zero, no two calls are answered the same id, and
the id of a call is larger than every id that was answered before the call started, and no earlier
than the clock reading of the call. -/
theorem ids_new (h : StaysBelow turns) :
    (∀ id ∈ (run {} turns).ids, id ≠ 0) ∧ (run {} turns).ids.Nodup ∧
    ∀ k id, (run {} turns).draws[k]? = some (.answered id) →
      ∃ (before : List Turn) (millis : Int) (after : List Turn),
        turns = before ++ .start millis :: after ∧
        (run {} before).draws.size = k ∧
        (∀ earlier ∈ (run {} before).ids, earlier < id) ∧
        (millis < Decimal.twoPow 42 → millis.toNat <<< counterBits ≤ id.toNat) := by
  refine ⟨fun id hid => ?nonzero, (bounds_run h).nodup, fun k id hid => ?_⟩
  case nonzero => exact UInt64.pos_iff_ne_zero.mp ((bounds_run h).pos id hid)
  · obtain ⟨before, millis, after, rfl, hk, -, hfloor, hbound⟩ := serves_run h hid
    refine ⟨before, millis, after, rfl, hk, fun earlier hearlier => ?_, fun hmillis => ?_⟩
    · have hle := (bounds_run h.of_append).le_last earlier hearlier
      exact UInt64.lt_of_le_of_lt hle hbound
    · rw [← toNat_firstOf hmillis]
      exact UInt64.le_iff_toNat_le.mp hfloor

/-- Two calls that read the clock in the wrong order and look at the counter at the same time: the
attempt of the first fails twice, once because the second was faster, and once for no reason. A
third call reads a time before the epoch. -/
def race : List Turn :=
  [.start 5, .start 3, .advance 0 false, .advance 1 false, .advance 1 false, .advance 0 false,
    .advance 0 true, .advance 0 false, .start (-7), .advance 2 false, .advance 2 false]

theorem ids_new_of_race :
    StaysBelow race ∧ (run {} race).ids = [20971520, 12582912, 20971521] ∧
    (run {} race).ids.Nodup ∧
    ∃ (before : List Turn) (millis : Int) (after : List Turn),
      race = before ++ .start millis :: after ∧
      (run {} before).draws.size = 2 ∧
      (∀ earlier ∈ (run {} before).ids, earlier < 20971521) ∧
      (millis < Decimal.twoPow 42 → millis.toNat <<< counterBits ≤ (20971521 : UInt64).toNat) := by
  have hbelow : StaysBelow race := by decide +kernel
  have hids : (run {} race).ids = [20971520, 12582912, 20971521] := by decide +kernel
  have hthird : (run {} race).draws[2]? = some (.answered 20971521) := by decide +kernel
  have hnew := ids_new hbelow
  exact ⟨hbelow, hids, hnew.2.1, hnew.2.2 2 20971521 hthird⟩

end Counter

end ClusterRegistry.Id
