import ApiGateway.ResourceTree.Listing
import ApiGateway.Proofs.Endpoint.Routable

/-! What a tree holds once lists of segments have been added: under the key of each of their leading
parts a node with segments of that key, and nothing else. What a node keeps beside its segments is
always what they give. Without slashes in the segments a key belongs to one list only, and then the
nodes are the leading parts, each once. -/

namespace ApiGateway

theorem Keys.mem_insert_iff {ks : Keys} {j k : String} : j ∈ ks.insert k ↔ j = k ∨ j ∈ ks := by
  rw [Std.ExtTreeSet.mem_insert, Std.LawfulEqCmp.compare_eq_iff_eq, eq_comm]

theorem Keys.insert_of_mem {ks : Keys} {k : String} (h : k ∈ ks) : ks.insert k = ks := by
  ext j
  rw [Keys.mem_insert_iff]
  exact ⟨fun hj => hj.elim (fun heq => heq ▸ h) id, .inr⟩

namespace ResourceTree

def ofLists (rs : List Segments) : ResourceTree := rs.foldl insert empty

/-- What a node keeps beside its segments is what they give: the last of them, what a resource for
them hangs on, and their name. -/
structure Node.Coherent (n : Node) : Prop where
  lastSegment : n.lastSegment = n.segments.getLastD ""
  parent : n.parent = .ofSegments n.segments
  name : n.name = Path.resourceName n.segments

def Coherent (t : ResourceTree) : Prop := ∀ ⦃k n⦄, t.get? k = some n → n.Coherent

/-- Every node stands under the key of its segments, which are of the kind `P`, and keeps what they
give; and every list of that kind has a node under its key. -/
structure Holds (t : ResourceTree) (P : Segments → Prop) : Prop where
  stored : ∀ {k n}, t.get? k = some n → k = n.path ∧ P n.segments
  coherent : t.Coherent
  present : ∀ {p}, P p → ∃ n, t.get? (Path.key p) = some n

section Growth

variable {t : ResourceTree} {P : Segments → Prop}

theorem eq_of_get? {u : ResourceTree} (hnodes : ∀ k, t.get? k = u.get? k)
    (hroots : t.roots = u.roots) : t = u := by
  cases t
  cases u
  exact congrArg₂ ResourceTree.mk (Std.ExtTreeMap.ext_getElem? fun {k} => hnodes k) hroots

theorem get?_empty (k : String) : empty.get? k = none := Std.ExtTreeMap.getElem?_empty

theorem getElem?_insertIfNew (m : Std.ExtTreeMap String Node) (k j : String) (n : Node) :
    (m.insertIfNew k n)[j]? = if j = k then some (m[j]?.getD n) else m[j]? := by
  rw [Std.ExtTreeMap.getElem?_insertIfNew]
  by_cases hj : j = k
  · subst hj
    by_cases hm : j ∈ m <;> simp [hm]
  · simp [hj, Ne.symm hj]

theorem get?_grow (t : ResourceTree) (ss : Segments) (k : String) :
    (t.grow ss).get? k =
      (if k = Path.key ss then some ((t.get? k).getD (.ofSegments ss)) else t.get? k).map fun n =>
        if Parent.ofSegments ss = .path k then n.addChild (Path.key ss) else n := by
  unfold grow get?
  cases hp : Parent.ofSegments ss with
  | root => simp [getElem?_insertIfNew]
  | path parent =>
    simp only [Std.ExtTreeMap.getElem?_modify, getElem?_insertIfNew]
    by_cases hk : parent = k
    · subst hk
      simp
    · simp [hk]

theorem exists_get?_grow {ss : Segments} {k : String} : (∃ n, (t.grow ss).get? k = some n) ↔
    k = Path.key ss ∨ ∃ n, t.get? k = some n := by
  simp only [← Option.isSome_iff_exists, get?_grow, Option.isSome_map]
  split_ifs with hk <;> simp [hk]

/-- A node of the tree that has grown is one that was there or the new one, as it was or with one
child more. -/
theorem eq_or_addChild_of_get?_grow {ss : Segments} {k : String} {n : Node}
    (h : (t.grow ss).get? k = some n) :
    ∃ m, (t.get? k = some m ∨ t.get? k = none ∧ k = Path.key ss ∧ m = .ofSegments ss) ∧
      (n = m ∨ n = m.addChild (Path.key ss)) := by
  rw [get?_grow] at h
  obtain ⟨m, hm, rfl⟩ := Option.map_eq_some_iff.mp h
  refine ⟨m, ?_, ?_⟩
  · cases hold : t.get? k with
    | none =>
      rw [hold] at hm
      split at hm
      next hk => exact .inr ⟨rfl, hk, (Option.some.inj hm).symm⟩
      next => cases hm
    | some old =>
      rw [hold, Option.getD_some, ite_self] at hm
      exact .inl hm
  · split
    · exact .inr rfl
    · exact .inl rfl

theorem Node.coherent_ofSegments (ss : Segments) : (Node.ofSegments ss).Coherent := ⟨rfl, rfl, rfl⟩

theorem Node.Coherent.getLast?_segments {n : Node} (h : n.Coherent) (hne : n.segments ≠ []) :
    n.segments.getLast? = some n.lastSegment := by
  rw [h.lastSegment, List.getLastD_eq_getLast?, List.getLast?_eq_some_getLast hne]
  rfl

/-- A child more changes nothing of what a node says of itself. -/
theorem Node.Coherent.addChild {n : Node} (h : n.Coherent) (key : String) :
    (n.addChild key).Coherent := ⟨h.lastSegment, h.parent, h.name⟩

theorem coherent_empty : empty.Coherent := by
  intro k n hn
  simp [get?_empty] at hn

/-- A new node is coherent, and an old one stays so whether or not it is the parent. -/
theorem Coherent.grow (h : t.Coherent) (ss : Segments) : (t.grow ss).Coherent := by
  intro k n hn
  obtain ⟨m, hm, hnm⟩ := eq_or_addChild_of_get?_grow hn
  have hcoherent : m.Coherent := by
    rcases hm with hm | ⟨-, -, rfl⟩
    · exact h hm
    · exact Node.coherent_ofSegments ss
  rcases hnm with rfl | rfl
  · exact hcoherent
  · exact hcoherent.addChild _

theorem Coherent.foldl_grow (h : t.Coherent) (ps : List Segments) :
    (ps.foldl ResourceTree.grow t).Coherent := by
  induction ps generalizing t with
  | nil => exact h
  | cons p ps ih => exact ih (h.grow p)

theorem Coherent.insert (h : t.Coherent) (ss : Segments) : (t.insert ss).Coherent :=
  h.foldl_grow (Path.ancestry ss)

theorem holds_empty : empty.Holds fun _ => False where
  stored h := by simp [get?_empty] at h
  coherent := coherent_empty
  present h := h.elim

theorem Holds.grow (h : t.Holds P) (ss : Segments) :
    (t.grow ss).Holds fun p => P p ∨ p = ss where
  stored {k n} hn := by
    obtain ⟨m, hm, hnm⟩ := eq_or_addChild_of_get?_grow hn
    have hsegments : n.segments = m.segments := by
      rcases hnm with rfl | rfl
      · rfl
      · rfl
    rw [Node.path, hsegments]
    rcases hm with hm | ⟨-, hk, rfl⟩
    · exact (h.stored hm).imp_right .inl
    · exact ⟨hk, .inr rfl⟩
  coherent := h.coherent.grow ss
  present {p} hp := by
    rw [exists_get?_grow]
    rcases hp with hp | rfl
    · exact .inr (h.present hp)
    · exact .inl rfl

theorem Holds.foldl_grow (h : t.Holds P) (ps : List Segments) :
    (ps.foldl ResourceTree.grow t).Holds fun p => P p ∨ p ∈ ps := by
  induction ps generalizing t P with
  | nil => simpa using h
  | cons p ps ih => simpa [or_assoc] using ih (h.grow p)

theorem Holds.foldl_insert (h : t.Holds P) (rs : List Segments) :
    (rs.foldl insert t).Holds fun p => P p ∨ ∃ ss ∈ rs, p ∈ Path.ancestry ss := by
  induction rs generalizing t P with
  | nil => simpa using h
  | cons ss rs ih => simpa [or_assoc, insert] using ih (h.foldl_grow (Path.ancestry ss))

theorem holds_ofLists (rs : List Segments) : (ofLists rs).Holds (· ∈ Path.parts rs) := by
  have h := holds_empty.foldl_insert rs
  simpa [ofLists, Path.parts] using h

end Growth

section Nodes

variable {t : ResourceTree} {P : Segments → Prop} {n : Node} {p : Segments}

theorem Holds.mem_toList (h : t.Holds P) : n ∈ t.toList ↔ t.get? n.path = some n := by
  simp only [toList, List.mem_map, Prod.exists, exists_eq_right,
    Std.ExtTreeMap.mem_toList_iff_getElem?_eq_some]
  exact ⟨fun ⟨k, hk⟩ => (h.stored hk).1 ▸ hk, fun hn => ⟨_, hn⟩⟩

theorem Holds.coherent_of_mem (h : t.Holds P) (hn : n ∈ t.toList) : n.Coherent :=
  h.coherent (h.mem_toList.mp hn)

theorem length_toList (t : ResourceTree) : t.toList.length = t.size := by
  rw [toList, List.length_map, Std.ExtTreeMap.length_toList, size]

theorem Holds.pairwise_toList (h : t.Holds P) :
    t.toList.Pairwise fun m n => compare m.path n.path = .lt := by
  rw [toList, List.pairwise_map]
  refine Std.ExtTreeMap.ordered_keys_toList.imp_of_mem fun {a b} ha hb hab => ?_
  have hkey {x : String × Node} (hx : x ∈ t.nodes.toList) : x.1 = x.2.path :=
    (h.stored (Std.ExtTreeMap.mem_toList_iff_getElem?_eq_some.mp hx)).1
  rwa [hkey ha, hkey hb] at hab

theorem Holds.nodup_segments (h : t.Holds P) : (t.toList.map Node.segments).Nodup := by
  refine List.pairwise_map.mpr (h.pairwise_toList.imp fun {m n} hlt heq => ?_)
  simp [Node.path, heq] at hlt

theorem Holds.map_name_toList (h : t.Holds P) :
    t.toList.map Node.name = (t.toList.map Node.segments).map Path.resourceName := by
  rw [List.map_map]
  exact List.map_congr_left fun n hn => (h.coherent_of_mem hn).name

theorem mem_byDepth : n ∈ t.byDepth ↔ n ∈ t.toList := List.mem_mergeSort

/-- Nodes that keep what their segments give are in the order of their segments. -/
theorem Node.order_eq {m : Node} (hm : m.Coherent) (hn : n.Coherent) :
    m.order n = Path.order m.segments n.segments := by
  rw [order, hm.name, hn.name]
  rfl

theorem Holds.map_segments_byDepth (h : t.Holds P) :
    t.byDepth.map Node.segments = Path.sort (t.toList.map Node.segments) := by
  refine List.map_mergeSort fun m hm n hn => ?_
  rw [Node.order_eq (h.coherent_of_mem hm) (h.coherent_of_mem hn)]

/-- Without slashes a key leads to the very segments it was made of. -/
theorem Holds.get?_key (h : t.Holds P) (hP : ∀ {p}, P p → p ≠ [] ∧ Path.SlashFree p) (hp : P p) :
    ∃ n, t.get? (Path.key p) = some n ∧ n.segments = p := by
  obtain ⟨n, hn⟩ := h.present hp
  obtain ⟨hkey, hPn⟩ := h.stored hn
  have heq := Path.key_injective (hP hp).2 (hP hPn).2 (hP hp).1 (hP hPn).1 hkey
  exact ⟨n, hn, heq.symm⟩

theorem Holds.mem_segments (h : t.Holds P) (hP : ∀ {p}, P p → p ≠ [] ∧ Path.SlashFree p) :
    p ∈ t.toList.map Node.segments ↔ P p := by
  simp only [List.mem_map, h.mem_toList]
  constructor
  · rintro ⟨n, hn, rfl⟩
    exact (h.stored hn).2
  · intro hp
    obtain ⟨n, hn, heq⟩ := h.get?_key hP hp
    refine ⟨n, ?_, heq⟩
    rwa [Node.path, heq]

end Nodes

section OfLists

variable {rs : List Segments}

theorem parts_kind (hrs : ∀ ss ∈ rs, Path.SlashFree ss) {p : Segments} (h : p ∈ Path.parts rs) :
    p ≠ [] ∧ Path.SlashFree p :=
  ⟨Path.ne_nil_of_mem_parts h, Path.slashFree_of_mem_parts hrs h⟩

theorem segments_perm_parts (hrs : ∀ ss ∈ rs, Path.SlashFree ss) :
    ((ofLists rs).toList.map Node.segments).Perm (Path.parts rs) :=
  (List.perm_ext_iff_of_nodup (holds_ofLists rs).nodup_segments (Path.nodup_parts rs)).mpr
    fun _ => (holds_ofLists rs).mem_segments (parts_kind hrs)

theorem names_perm_parts (hrs : ∀ ss ∈ rs, Path.SlashFree ss) :
    ((ofLists rs).toList.map Node.name).Perm ((Path.parts rs).map Path.resourceName) := by
  rw [(holds_ofLists rs).map_name_toList]
  exact (segments_perm_parts hrs).map Path.resourceName

theorem size_ofLists (hrs : ∀ ss ∈ rs, Path.SlashFree ss) :
    (ofLists rs).size = (Path.parts rs).length := by
  rw [← length_toList, ← List.length_map, (segments_perm_parts hrs).length_eq]

theorem map_segments_byDepth (hrs : ∀ ss ∈ rs, Path.SlashFree ss) :
    (ofLists rs).byDepth.map Node.segments = Path.sort (Path.parts rs) := by
  rw [(holds_ofLists rs).map_segments_byDepth, Path.sort_eq_of_perm (segments_perm_parts hrs)]

end OfLists

section Build

variable {es : List Endpoint}

theorem foldlM_insertPath (es : List Endpoint) (t : ResourceTree) :
    es.foldlM (fun t e => t.insertPath e.path) t =
      (es.mapM fun e => Path.segments e.path).map fun rs => rs.foldl insert t := by
  induction es generalizing t with
  | nil => rfl
  | cons e es ih =>
    rw [List.foldlM_cons, List.mapM_cons, insertPath]
    cases Path.segments e.path with
    | error err => rfl
    | ok ss =>
      refine (ih (t.insert ss)).trans ?_
      cases es.mapM fun e => Path.segments e.path <;> rfl

theorem build_eq (es : List Endpoint) :
    build es = (es.mapM fun e => Path.segments e.path).map ofLists := foldlM_insertPath es empty

theorem build_of_routable (h : Endpoint.Routable es) :
    build es = .ok (ofLists (es.map Endpoint.segments)) := by
  rw [build_eq, h.mapM_segments]
  rfl

theorem routable_of_build_eq_ok {t : ResourceTree} (h : build es = .ok t) :
    Endpoint.Routable es := by
  rw [build_eq] at h
  cases hrs : es.mapM fun e => Path.segments e.path with
  | error err =>
    rw [hrs] at h
    cases h
  | ok rs => exact Endpoint.exists_eq_ok_of_mapM hrs

theorem exists_build_iff : (∃ t, build es = .ok t) ↔ Endpoint.Routable es :=
  ⟨fun ⟨_, h⟩ => routable_of_build_eq_ok h, fun h => ⟨_, build_of_routable h⟩⟩

end Build
end ResourceTree
end ApiGateway
