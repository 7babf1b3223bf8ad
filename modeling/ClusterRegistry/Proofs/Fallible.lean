import Mathlib.Data.List.Forall2

/-!
# Steps that may fail

What is known of the steps of a computation once the whole of it has come to a value, and when two
computations come to the same values although they may fail in different ways (`Alike`), or fail in
the same way and come to values that are related (`InStep`).
-/

namespace ClusterRegistry

variable {ε ε' α β : Type}

/-- A step after another succeeds only if both do. -/
theorem exists_of_bind_eq_ok {x : Except ε α} {f : α → Except ε β} {b : β}
    (h : (x >>= f) = .ok b) : ∃ a, x = .ok a ∧ f a = .ok b := by
  cases x with
  | error e => cases h
  | ok a => exact ⟨a, rfl, h⟩

theorem exists_of_map_eq_ok {x : Except ε α} {f : α → β} {b : β} (h : x.map f = .ok b) :
    ∃ a, x = .ok a ∧ f a = b := by
  cases x with
  | error e => cases h
  | ok a => exact ⟨a, rfl, Except.ok.inj h⟩

/-- What succeeds with its failures told in another way succeeds. -/
theorem eq_ok_of_mapError_eq_ok {x : Except ε α} {f : ε → ε'} {a : α}
    (h : x.mapError f = .ok a) : x = .ok a := by
  cases x with
  | error e => cases h
  | ok b =>
    cases h
    rfl

/-- What comes of a list came of its members. -/
theorem exists_mem_of_mapM_eq_ok {f : α → Except ε β} {as : List α} {bs : List β}
    (h : as.mapM f = .ok bs) : ∀ b ∈ bs, ∃ a ∈ as, f a = .ok b := by
  induction as generalizing bs with
  | nil =>
    cases h
    exact nofun
  | cons a rest ih =>
    rw [List.mapM_cons] at h
    obtain ⟨b, hb, h⟩ := exists_of_bind_eq_ok h
    obtain ⟨others, hothers, h⟩ := exists_of_bind_eq_ok h
    cases h
    refine List.forall_mem_cons.mpr ⟨⟨a, List.mem_cons_self, hb⟩, fun b' hb' => ?_⟩
    obtain ⟨a', ha', hstep⟩ := ih hothers b' hb'
    exact ⟨a', List.mem_cons_of_mem _ ha', hstep⟩

/-- If the results of members are known, so are those of the list, in its order. -/
theorem mapM_eq_ok_iff {f : α → Except ε β} {R : α → β → Prop} {as : List α}
    (h : ∀ a ∈ as, ∀ b, f a = .ok b ↔ R a b) {bs : List β} :
    as.mapM f = .ok bs ↔ List.Forall₂ R as bs := by
  induction as generalizing bs with
  | nil =>
    rw [List.forall₂_nil_left_iff]
    exact ⟨fun h => (Except.ok.inj h).symm, fun h => congrArg Except.ok h.symm⟩
  | cons a rest ih =>
    obtain ⟨hfirst, hrest⟩ := List.forall_mem_cons.mp h
    rw [List.mapM_cons, List.forall₂_cons_left_iff]
    constructor
    · intro hok
      obtain ⟨b, hb, hok⟩ := exists_of_bind_eq_ok hok
      obtain ⟨others, hothers, hok⟩ := exists_of_bind_eq_ok hok
      cases hok
      exact ⟨b, others, (hfirst b).mp hb, (ih hrest).mp hothers, rfl⟩
    · rintro ⟨b, others, hb, hothers, rfl⟩
      rw [(hfirst b).mpr hb, (ih hrest).mpr hothers]
      rfl

/-- A list is got back from what its members are made into if and only if each member is. -/
theorem mapM_map_eq_ok_iff {f : α → Except ε β} {g : β → α} {bs : List β} :
    (bs.map g).mapM f = .ok bs ↔ ∀ b ∈ bs, f (g b) = .ok b := by
  induction bs with
  | nil => exact iff_of_true rfl nofun
  | cons b rest ih =>
    rw [List.map_cons, List.mapM_cons, List.forall_mem_cons, ← ih]
    constructor
    · intro h
      obtain ⟨b', hb, h⟩ := exists_of_bind_eq_ok h
      obtain ⟨others, hothers, h⟩ := exists_of_bind_eq_ok h
      cases h
      exact ⟨hb, hothers⟩
    · rintro ⟨hb, hrest⟩
      rw [hb, hrest]
      rfl

/-- What every step keeps holds at the end if it holds at the start. -/
theorem foldlM_keeps {P : α → Prop} {f : α → β → Except ε α} {l : List β}
    (hstep : ∀ b ∈ l, ∀ a a', f a b = .ok a' → P a → P a') {a a' : α}
    (h : l.foldlM f a = .ok a') (ha : P a) : P a' := by
  induction l generalizing a with
  | nil =>
    cases h
    exact ha
  | cons b rest ih =>
    rw [List.foldlM_cons] at h
    obtain ⟨next, hnext, h⟩ := exists_of_bind_eq_ok h
    exact ih (fun b' hb' => hstep b' (List.mem_cons_of_mem _ hb')) h
      (hstep b List.mem_cons_self a next hnext ha)

/-! ## Computations that succeed alike -/

/-- Two computations succeed with the same values, and fail for whatever reasons of their own. -/
def Alike (x : Except ε α) (y : Except ε' α) : Prop := ∀ a, x = .ok a ↔ y = .ok a

section

variable {x : Except ε α} {y : Except ε' α}

theorem Alike.refl (x : Except ε α) : Alike x x := fun _ => .rfl

theorem alike_ok (a : α) : Alike (.ok a : Except ε α) (.ok a : Except ε' α) :=
  fun _ => by rw [Except.ok.injEq, Except.ok.injEq]

theorem alike_error (e : ε) (e' : ε') : Alike (.error e : Except ε α) (.error e' : Except ε' α) :=
  fun _ => ⟨nofun, nofun⟩

theorem alike_mapError (f : ε → ε') (x : Except ε α) : Alike (x.mapError f) x := by
  cases x with
  | ok a => exact alike_ok a
  | error e => exact alike_error (f e) e

/-- Nothing comes after what fails. -/
theorem Alike.bind_error {e : ε'} (h : Alike x (.error e : Except ε' α)) (f : α → Except ε β) :
    Alike (x >>= f) (.error e : Except ε' β) := by
  cases x with
  | ok a => exact nomatch (h a).mp rfl
  | error e' => exact alike_error e' e

theorem Alike.bind {f : α → Except ε β} {g : α → Except ε' β} (h : Alike x y)
    (hnext : ∀ a, y = .ok a → Alike (f a) (g a)) : Alike (x >>= f) (y >>= g) := by
  cases y with
  | ok a =>
    rw [(h a).mpr rfl]
    exact hnext a rfl
  | error e => exact h.bind_error f

theorem Alike.map (h : Alike x y) (f : α → β) : Alike (x.map f) (y.map f) := by
  cases y with
  | ok a =>
    rw [(h a).mpr rfl]
    exact alike_ok (f a)
  | error e =>
    cases x with
    | ok a => exact nomatch (h a).mp rfl
    | error e' => exact alike_error e' e

/-- What comes after in another form comes of what comes after. -/
theorem Alike.bind_map {γ : Type} {f : α → Except ε γ} {g : α → Except ε' β} {tell : β → γ}
    (h : Alike x y) (hnext : ∀ a, y = .ok a → Alike (f a) ((g a).map tell)) :
    Alike (x >>= f) ((y >>= g).map tell) := by
  cases y with
  | ok a =>
    rw [(h a).mpr rfl]
    exact hnext a rfl
  | error e => exact h.bind_error f

/-- What goes on with a result in another form goes on alike. -/
theorem Alike.bind_of_map {γ : Type} {x : Except ε γ} {tell : α → γ} {f : γ → Except ε β}
    {g : α → Except ε' β} (h : Alike x (y.map tell)) (hnext : ∀ a, Alike (f (tell a)) (g a)) :
    Alike (x >>= f) (y >>= g) := by
  cases y with
  | ok a =>
    rw [(h (tell a)).mpr rfl]
    exact hnext a
  | error e => exact Alike.bind_error (α := γ) h f

/-- Lists whose members are treated alike are treated alike. -/
theorem alike_mapM {γ : Type} {f : γ → Except ε β} {g : α → Except ε' β} {tell : α → γ}
    {as : List α} (h : ∀ a ∈ as, Alike (f (tell a)) (g a)) :
    Alike ((as.map tell).mapM f) (as.mapM g) := by
  induction as with
  | nil => exact alike_ok []
  | cons a rest ih =>
    obtain ⟨hfirst, hrest⟩ := List.forall_mem_cons.mp h
    rw [List.map_cons, List.mapM_cons, List.mapM_cons]
    exact hfirst.bind fun b _ => (ih hrest).bind fun bs _ => alike_ok (b :: bs)

/-- Two walks over a list go alike if they do in every step, where the first keeps a record of what
it has seen beside what the second one makes of it. -/
theorem alike_foldlM {σ μ δ : Type} {step : σ → δ → Except ε σ} {f : α → μ → Except ε' α}
    {doc : μ → δ} {all : List μ} (tell : List μ → α → σ)
    (h : ∀ seen m rest, all = seen ++ m :: rest → ∀ a,
      Alike (step (tell seen a) (doc m)) ((f a m).map (tell (seen ++ [m])))) (a : α) :
    Alike ((all.map doc).foldlM step (tell [] a)) ((all.foldlM f a).map (tell all)) := by
  have hfrom : ∀ seen rest, all = seen ++ rest → ∀ a,
      Alike ((rest.map doc).foldlM step (tell seen a)) ((rest.foldlM f a).map (tell all)) := by
    intro seen rest
    induction rest generalizing seen with
    | nil =>
      intro hall a
      rw [List.append_nil] at hall
      subst hall
      exact alike_ok (tell all a)
    | cons m rest ih =>
      intro hall a
      rw [List.map_cons, List.foldlM_cons, List.foldlM_cons]
      have hstep := h seen m rest hall a
      cases hm : f a m with
      | error e =>
        rw [hm] at hstep
        exact hstep.bind_error _
      | ok b =>
        rw [hm] at hstep
        rw [(hstep _).mpr rfl]
        exact ih (seen ++ [m]) (hall.trans (List.append_cons seen m rest)) b
  exact hfrom [] all rfl a

end

/-! ## Computations in step -/

/-- Two computations fail for the same reason, or come to values that are related. -/
inductive InStep (R : α → β → Prop) : Except ε α → Except ε β → Prop
  | ok {a : α} {b : β} (h : R a b) : InStep R (.ok a) (.ok b)
  | error (e : ε) : InStep R (.error e) (.error e)

section

variable {R : α → β → Prop} {x : Except ε α} {y : Except ε β}

theorem InStep.bind {γ δ : Type} {S : γ → δ → Prop} {f : α → Except ε γ} {g : β → Except ε δ}
    (h : InStep R x y) (hnext : ∀ a b, R a b → InStep S (f a) (g b)) :
    InStep S (x >>= f) (y >>= g) := by
  cases h with
  | ok hab => exact hnext _ _ hab
  | error e => exact .error e

/-- Walks over a list that keep in step in every step do so to the end. -/
theorem InStep.foldlM {γ : Type} {f : α → γ → Except ε α} {g : β → γ → Except ε β} {l : List γ}
    (hstep : ∀ c ∈ l, ∀ a b, R a b → InStep R (f a c) (g b c)) {a : α} {b : β} (h : R a b) :
    InStep R (l.foldlM f a) (l.foldlM g b) := by
  induction l generalizing a b with
  | nil => exact .ok h
  | cons c rest ih =>
    obtain ⟨hfirst, hrest⟩ := List.forall_mem_cons.mp hstep
    rw [List.foldlM_cons, List.foldlM_cons]
    exact (hfirst a b h).bind fun _ _ hab => ih hrest hab

/-- What is in step by way of a function is got by applying it. -/
theorem InStep.eq_map {f : α → β} (h : InStep (fun a b => b = f a) x y) : y = x.map f := by
  cases h with
  | ok hab => exact congrArg _ hab
  | error e => rfl

theorem InStep.eq {z : Except ε α} (h : InStep (fun a b => b = a) x z) : z = x := by
  cases h with
  | ok hab => exact congrArg _ hab
  | error e => rfl

theorem InStep.mono {S : α → β → Prop} (h : InStep R x y) (hRS : ∀ a b, R a b → S a b) :
    InStep S x y := by
  cases h with
  | ok hab => exact .ok (hRS _ _ hab)
  | error e => exact .error e

end

end ClusterRegistry
