import Mathlib.Data.List.DropRight
import ClusterRegistry.Text.Basic

/-!
# What trimming and splitting find

Trimming drops blanks from one end and then from the other, and splitting walks to the first
separator. What they find can be told without saying how: a trimmed text is the one that stands
between blanks and has none at its own ends (`Text.trimChars_eq_iff`), and a text is split where
nothing before the separator is one (`Text.splitFirst_eq_some_iff`). Parts that hold no separator
are found again when they are put together with one before each (`Text.splitAll_flatMap`).
-/

namespace ClusterRegistry.Text

variable {cs core : List Char}

/-- A text is another one with nothing but blanks around it, which has no blank at its own ends. -/
structure Trims (cs core : List Char) : Prop where
  around : ∃ before after, cs = before ++ core ++ after ∧
    (∀ c ∈ before, isBlank c = true) ∧ ∀ c ∈ after, isBlank c = true
  first : ∀ c ∈ core.head?, isBlank c = false
  last : ∀ c ∈ core.getLast?, isBlank c = false

theorem trimChars_eq_rdropWhile (cs : List Char) :
    trimChars cs = (cs.dropWhile isBlank).rdropWhile isBlank := rfl

theorem trims_trimChars (cs : List Char) : Trims cs (trimChars cs) := by
  rw [trimChars_eq_rdropWhile]
  refine ⟨⟨cs.takeWhile isBlank, (cs.dropWhile isBlank).rtakeWhile isBlank, ?_, ?_, ?_⟩, ?_, ?_⟩
  · rw [List.append_assoc, List.rdropWhile_append_rtakeWhile, List.takeWhile_append_dropWhile]
  · exact fun c => List.mem_takeWhile_imp
  · exact fun c => List.mem_rtakeWhile_imp
  · intro c hc
    obtain ⟨core, hcore⟩ := List.head?_eq_some_iff.mp hc
    -- what is left after dropping at the end starts where dropping at the start stopped
    obtain ⟨after, hafter⟩ := List.rdropWhile_prefix isBlank (l := cs.dropWhile isBlank)
    have hstop := List.head?_dropWhile_not isBlank cs
    rw [← hafter, hcore] at hstop
    exact hstop
  · intro c hc
    obtain ⟨hne, hlast⟩ := List.mem_getLast?_eq_getLast hc
    have hstop := List.rdropWhile_last_not isBlank (cs.dropWhile isBlank) hne
    rw [← hlast] at hstop
    simpa using hstop

/-- Blanks at the end do not count when blanks are dropped from the end. -/
theorem rdropWhile_append_of_blank {after : List Char} (h : ∀ c ∈ after, isBlank c = true) :
    (core ++ after).rdropWhile isBlank = core.rdropWhile isBlank := by
  have hreverse : ∀ c ∈ after.reverse, isBlank c = true := fun c hc => h c (List.mem_reverse.mp hc)
  rw [List.rdropWhile, List.reverse_append, List.dropWhile_append_of_pos hreverse, List.rdropWhile]

/-- **A trimmed text is the one between the blanks.** -/
theorem trimChars_eq_iff : trimChars cs = core ↔ Trims cs core := by
  refine ⟨fun h => h ▸ trims_trimChars cs, ?_⟩
  rintro ⟨⟨before, after, hcs, hbefore, hafter⟩, hfirst, hlast⟩
  rw [trimChars_eq_rdropWhile, hcs, List.append_assoc, List.dropWhile_append_of_pos hbefore]
  cases core with
  | nil =>
    rw [List.nil_append, List.dropWhile_eq_nil_iff.mpr hafter, List.rdropWhile_nil]
  | cons c rest =>
    have hc : isBlank c = false := hfirst c rfl
    have hend : ¬isBlank ((c :: rest).getLast (List.cons_ne_nil c rest)) = true := by
      rw [hlast _ (List.getLast?_eq_some_getLast (List.cons_ne_nil c rest))]
      exact Bool.false_ne_true
    rw [List.cons_append, List.dropWhile_cons_of_neg (by simp [hc]), ← List.cons_append,
      rdropWhile_append_of_blank hafter, List.rdropWhile_eq_self_iff.mpr fun _ => hend]

/-- **A text is split at the first separator in it.** -/
theorem splitFirst_eq_some_iff {sep : Char} {front back : List Char} :
    splitFirst sep cs = some (front, back) ↔ cs = front ++ sep :: back ∧ sep ∉ front := by
  refine ⟨splitFirst_eq_some, ?_⟩
  rintro ⟨rfl, hsep⟩
  induction front with
  | nil => simp [splitFirst]
  | cons c rest ih =>
    obtain ⟨hc, hrest⟩ := not_or.mp (mt List.mem_cons.mpr hsep)
    rw [List.cons_append, splitFirst, if_neg (Ne.symm hc), ih hrest]
    rfl

theorem splitFirst_eq_none_iff {sep : Char} : splitFirst sep cs = none ↔ sep ∉ cs := by
  induction cs with
  | nil => simp [splitFirst]
  | cons c rest ih =>
    rw [splitFirst, List.mem_cons, not_or]
    split
    · next hc => simp [hc]
    · next hc => rw [Option.map_eq_none_iff, ih, and_iff_right (Ne.symm hc)]

/-- What stands before the first separator is the first part. -/
theorem splitAll_append {sep : Char} {front : List Char} (hsep : sep ∉ front) {part : List Char}
    {parts : List (List Char)} (h : splitAll sep cs = part :: parts) :
    splitAll sep (front ++ cs) = (front ++ part) :: parts := by
  induction front with
  | nil => exact h
  | cons c rest ih =>
    obtain ⟨hc, hrest⟩ := not_or.mp (mt List.mem_cons.mpr hsep)
    rw [List.cons_append, splitAll, if_neg (Ne.symm hc), ih hrest]
    rfl

/-- Texts with a separator before each of them are split into these texts. -/
theorem splitAll_flatMap {sep : Char} {parts : List (List Char)} (h : ∀ part ∈ parts, sep ∉ part) :
    splitAll sep (parts.flatMap (sep :: ·)) = [] :: parts := by
  induction parts with
  | nil => rfl
  | cons part parts ih =>
    obtain ⟨hpart, hparts⟩ := List.forall_mem_cons.mp h
    rw [List.flatMap_cons, List.cons_append, splitAll, if_pos rfl,
      splitAll_append hpart (ih hparts), List.append_nil]

end ClusterRegistry.Text
