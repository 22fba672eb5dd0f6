import ApiGateway.Proofs.Path.Order
import ApiGateway.Proofs.ResourceTree.Places

/-! What holds of a tree whatever lists were added to it. Slashes in segments let different lists
share a key, so a key may hang on several parents, and a node need not be one level below any of
them; but keys grow from parent to child, and no key is without a node. -/

namespace ApiGateway.ResourceTree

/-- A node in its place: what it says of its own segments, and what it hangs on and carries. -/
structure Node.StandsAt (n : Node) (k : String) (t : ResourceTree) : Prop where
  nonempty : n.segments ≠ []
  key : k = Path.key n.segments
  lastSegment : n.segments.getLast? = some n.lastSegment
  name : n.name = Path.resourceName n.segments
  root_iff : n.parent = .root ↔ n.segments.length = 1
  above : n.segments.length ≠ 1 → n.parent = .path (Path.key n.segments.dropLast) ∧
    ∃ m, t.get? (Path.key n.segments.dropLast) = some m
  hangs : k ∈ t.childrenOf n.parent
  children : ∀ j ∈ n.children, (∃ m, t.get? j = some m) ∧ ∃ rest, j = k ++ "/" ++ rest

structure WellFormed (t : ResourceTree) : Prop where
  node : ∀ k n, t.get? k = some n → n.StandsAt k t
  roots : ∀ j ∈ t.roots, ∃ m, t.get? j = some m

section WellFormed

variable {t : ResourceTree} {P : Segments → Prop} {n : Node} {j k : String}

theorem Holds.exists_get? (h : t.Holds P) (hlinks : t.Links P) {par : Parent}
    (hj : j ∈ t.childrenOf par) : ∃ m, t.get? j = some m := by
  obtain ⟨p, hp, -, rfl⟩ := (hlinks par j).mp hj
  exact h.present hp

/-- The key of a child is that of its parent, a slash, and the last of the segments added. -/
theorem Links.exists_eq_append (h : t.Links P) (hj : j ∈ t.childrenOf (.path k)) :
    ∃ rest, j = k ++ "/" ++ rest := by
  obtain ⟨p, -, hparent, rfl⟩ := (h _ _).mp hj
  obtain ⟨hlen, rfl⟩ := Parent.ofSegments_eq_path_iff.mp hparent
  have hne : p ≠ [] := List.ne_nil_of_length_pos (by omega)
  have hdrop : p.dropLast ≠ [] := List.ne_nil_of_length_pos (by rw [List.length_dropLast]; omega)
  refine ⟨p.getLast hne, ?_⟩
  rw [← Path.key_concat hdrop, List.dropLast_append_getLast]

theorem Holds.standsAt (h : t.Holds P) (hlinks : t.Links P)
    (hP : ∀ p, P p → p ≠ [] ∧ (1 < p.length → P p.dropLast)) (hn : t.get? k = some n) :
    n.StandsAt k t := by
  obtain ⟨hkey, hkind⟩ := h.stored hn
  have hcoherent := h.coherent hn
  obtain ⟨hne, habove⟩ := hP _ hkind
  have hpos := List.length_pos_iff.mpr hne
  have hcarries (j : String) (hj : j ∈ n.children) : j ∈ t.childrenOf (.path k) := by
    rw [childrenOf, hn]
    exact hj
  refine ⟨hne, hkey, hcoherent.getLast?_segments hne, hcoherent.name, ?_, fun hlen => ?_, ?_,
    fun j hj => ?_⟩
  · rw [hcoherent.parent, Parent.ofSegments_eq_root_iff]
    omega
  · have hlong : 1 < n.segments.length := by omega
    rw [hcoherent.parent]
    exact ⟨Parent.ofSegments_eq_path_iff.mpr ⟨hlong, rfl⟩, h.present (habove hlong)⟩
  · exact (hlinks _ _).mpr ⟨n.segments, hkind, hcoherent.parent.symm, hkey.symm⟩
  · exact ⟨h.exists_get? hlinks (hcarries j hj), hlinks.exists_eq_append (hcarries j hj)⟩

theorem Node.StandsAt.lastSegment_eq (h : n.StandsAt k t) :
    n.lastSegment = n.segments.getLastD "" := by
  rw [List.getLastD_eq_getLast?, h.lastSegment]
  rfl

/-- What hangs on a key hangs on that of all its segments but the last. -/
theorem Node.StandsAt.of_parent_eq_path (h : n.StandsAt k t) (hparent : n.parent = .path j) :
    1 < n.segments.length ∧ j = Path.key n.segments.dropLast ∧ ∃ m, t.get? j = some m := by
  have hpos := List.length_pos_iff.mpr h.nonempty
  have hlen : n.segments.length ≠ 1 := fun hone => by
    rw [h.root_iff.mpr hone] at hparent
    cases hparent
  obtain ⟨habove, hthere⟩ := h.above hlen
  obtain rfl := Parent.path.inj (hparent.symm.trans habove)
  exact ⟨by omega, rfl, hthere⟩

theorem mem_toList_iff : n ∈ t.toList ↔ ∃ k, t.get? k = some n := by
  simp only [toList, get?, List.mem_map, Prod.exists, exists_eq_right,
    Std.ExtTreeMap.mem_toList_iff_getElem?_eq_some]

theorem WellFormed.path_eq (h : t.WellFormed) (hn : t.get? k = some n) : n.path = k :=
  (h.node k n hn).key.symm

/-- Keys grow along every edge, also where a node hangs on several parents. -/
theorem Node.StandsAt.length_lt (h : n.StandsAt k t) (hj : j ∈ n.children) :
    k.length < j.length := by
  obtain ⟨-, rest, rfl⟩ := h.children j hj
  have hslash : "/".length = 1 := rfl
  rw [String.length_append, String.length_append, hslash]
  omega

theorem wellFormed_ofLists (rs : List Segments) : (ofLists rs).WellFormed where
  node _ _ hn := (holds_ofLists rs).standsAt (links_ofLists rs)
    (fun _ hp => ⟨Path.ne_nil_of_mem_parts hp, Path.dropLast_mem_parts hp⟩) hn
  roots j hj := by
    have hroot : j ∈ (ofLists rs).childrenOf .root := hj
    exact (holds_ofLists rs).exists_get? (links_ofLists rs) hroot

end WellFormed
end ApiGateway.ResourceTree
