import ClusterRegistry.Expansion

/-!
# Names of replicas are distinct

The name of a replica carries its index as decimal digits, either at its end or before the first
point. What stands around the digits is the same for all replicas, so two of them have one name
only if they have one index.
-/

namespace ClusterRegistry

/-- A number is told by its digits. -/
theorem toDigits_injective {i j : Nat} (h : Nat.toDigits 10 i = Nat.toDigits 10 j) : i = j := by
  have hvalue := congrArg (fun digits => Nat.ofDigitChars 10 digits 0) h
  simpa only [Nat.ofDigitChars_ten_toDigits] using hvalue

variable {base : String} {first last total : Nat}

/-- Of several replicas no two have the same name. -/
theorem replicaName_injective (htotal : 1 < total) {i j : Nat}
    (h : replicaName base i total = replicaName base j total) : i = j := by
  unfold replicaName at h
  rw [if_neg (Nat.not_le.mpr htotal), if_neg (Nat.not_le.mpr htotal)] at h
  split at h
  · -- the label stands before the digits and the domain after them
    have hlist := String.ofList_injective h
    rw [List.append_assoc, List.append_assoc] at hlist
    exact toDigits_injective (List.append_cancel_right (List.append_cancel_left hlist))
  · have hlist := congrArg String.toList h
    simp only [String.toList_append, Nat.toString_eq_ofList_toDigits, String.toList_ofList] at hlist
    exact toDigits_injective (List.append_cancel_left hlist)

theorem length_replicaNames (base : String) (first last total : Nat) :
    (replicaNames base first last total).length = last + 1 - first := by
  rw [replicaNames, List.length_map, List.length_range']

/-- The names of several replicas are distinct, and so are those of at most one. -/
theorem nodup_replicaNames (h : total ≤ 1 → last ≤ first) :
    (replicaNames base first last total).Nodup := by
  unfold replicaNames
  rw [List.Nodup, List.pairwise_map]
  by_cases htotal : 1 < total
  · exact List.Pairwise.imp (fun hne hname => hne (replicaName_injective htotal hname))
      List.nodup_range'
  · -- there is at most one index
    have hlast := h (Nat.not_lt.mp htotal)
    obtain hnone | hone : last + 1 - first = 0 ∨ last + 1 - first = 1 := by omega
    · rw [hnone]
      exact .nil
    · rw [hone]
      exact List.pairwise_singleton _ _

/-- The names of the assemblies of a factory are as many as its replicas, and distinct. -/
theorem length_assemblyNames (envelope : Envelope) (f : Factory) :
    (assemblyNames envelope f).length = f.replicas.toNat := by
  rw [assemblyNames, length_replicaNames, Nat.add_sub_cancel]

theorem nodup_assemblyNames (envelope : Envelope) (f : Factory) :
    (assemblyNames envelope f).Nodup :=
  nodup_replicaNames id

end ClusterRegistry
