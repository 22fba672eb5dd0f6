import ApiGateway.Proofs.ResourceTree.Content
import Mathlib.Data.Set.Card

/-! What hangs on what in a tree. Every key is hung on the parent of its segments when it is added,
and nowhere else. Without slashes in the segments this settles the whole tree: it is determined by
the set of the leading parts that were added. -/

namespace ApiGateway

namespace Parent

variable {p : Segments} {k : String}

theorem ofSegments_eq_root_iff : ofSegments p = root ↔ p.length ≤ 1 := by
  unfold ofSegments
  split_ifs with h <;> simp [h]

theorem ofSegments_eq_path_iff : ofSegments p = path k ↔ 1 < p.length ∧ Path.key p.dropLast = k := by
  unfold ofSegments
  split_ifs with h
  · simp [Nat.not_lt.mpr h]
  · simp [Nat.not_le.mp h]

end Parent

namespace Path

/-- The non-empty leading parts of the lists. -/
def leading (rs : List Segments) : Set Segments := {p | p ≠ [] ∧ ∃ ss ∈ rs, p <+: ss}

theorem mem_leading_iff {rs : List Segments} {p : Segments} : p ∈ leading rs ↔ p ∈ parts rs :=
  mem_parts.symm

theorem encard_leading (rs : List Segments) : (leading rs).encard = (parts rs).length := by
  have hset : leading rs = (parts rs).toFinset := by
    ext p
    rw [mem_leading_iff, Finset.mem_coe, List.mem_toFinset]
  rw [hset, Set.encard_coe_eq_coe_finsetCard, List.toFinset_card_of_nodup (nodup_parts rs)]

theorem ancestry_concat (ss : Segments) (s : String) :
    ancestry (ss ++ [s]) = ancestry ss ++ [ss ++ [s]] := by
  induction ss with
  | nil => rfl
  | cons a ss ih => simp [ancestry, ih]

end Path

namespace ResourceTree

/-- The keys that hang on a parent. -/
def childrenOf (t : ResourceTree) : Parent → Keys
  | .root => t.roots
  | .path key => (t.get? key).elim ∅ Node.children

/-- Whether something can be hung on a parent: nothing hangs on a node that is not there. -/
def Offers (t : ResourceTree) : Parent → Prop
  | .root => True
  | .path key => ∃ n, t.get? key = some n

/-- On a parent hang the keys of those lists of the kind `P` that have this parent. -/
def Links (t : ResourceTree) (P : Segments → Prop) : Prop :=
  ∀ par k, k ∈ t.childrenOf par ↔ ∃ p, P p ∧ Parent.ofSegments p = par ∧ Path.key p = k

section Growth

variable {t : ResourceTree} {P : Segments → Prop} {ss : Segments}

/-- Growing hangs one key on one parent. -/
theorem mem_childrenOf_grow (h : t.Offers (.ofSegments ss)) (par : Parent) (k : String) :
    k ∈ (t.grow ss).childrenOf par ↔
      k ∈ t.childrenOf par ∨ Parent.ofSegments ss = par ∧ Path.key ss = k := by
  cases par with
  | root =>
    unfold childrenOf grow
    cases hp : Parent.ofSegments ss with
    | root => rw [Keys.mem_insert_iff, or_comm, eq_comm, and_iff_right rfl]
    | path key => simp
  | path key =>
    have hnew : (t.grow ss).childrenOf (.path key) = ((t.grow ss).get? key).elim ∅ Node.children :=
      rfl
    rw [hnew, get?_grow, childrenOf]
    cases hk : t.get? key with
    | none =>
      -- A parent that is not there is not the one that the new key is hung on.
      have hne : Parent.ofSegments ss ≠ .path key := by
        intro heq
        rw [heq] at h
        obtain ⟨n, hn⟩ := h
        exact Option.some_ne_none n (hn.symm.trans hk)
      simp only [hne, if_false, false_and, or_false]
      split_ifs <;> simp [Node.ofSegments]
    | some n =>
      by_cases heq : Parent.ofSegments ss = .path key
      · have hadd : k ∈ (n.addChild (Path.key ss)).children ↔ k = Path.key ss ∨ k ∈ n.children :=
          Keys.mem_insert_iff
        simp [heq, hadd, or_comm, eq_comm (a := k)]
      · simp [heq]

theorem links_empty : empty.Links fun _ => False := by
  intro par k
  cases par <;> simp [childrenOf, empty, get?]

theorem insert_concat (t : ResourceTree) (ss : Segments) (s : String) :
    t.insert (ss ++ [s]) = (t.insert ss).grow (ss ++ [s]) := by
  rw [insert, Path.ancestry_concat, List.foldl_append]
  rfl

/-- After an insertion there is a node under the key of every leading part. -/
theorem exists_get?_insert {k : String} : (∃ n, (t.insert ss).get? k = some n) ↔
    (∃ p ∈ Path.ancestry ss, k = Path.key p) ∨ ∃ n, t.get? k = some n := by
  induction ss using List.reverseRecOn with
  | nil => simp [ResourceTree.insert, Path.ancestry]
  | append_singleton ss s ih =>
    rw [insert_concat, exists_get?_grow, ih, Path.ancestry_concat]
    simp only [List.mem_append, List.mem_singleton, or_and_right, exists_or, exists_eq_left]
    rw [or_left_comm, or_assoc]

/-- The parts of a list are added shortest first, so each of them finds its parent. -/
theorem offers_insert (t : ResourceTree) (ss : Segments) (s : String) :
    (t.insert ss).Offers (.ofSegments (ss ++ [s])) := by
  unfold Parent.ofSegments
  split_ifs with hlen
  · trivial
  · have hne : ss ≠ [] := by
      rintro rfl
      simp at hlen
    rw [List.dropLast_concat]
    exact exists_get?_insert.mpr (.inl ⟨ss, Path.mem_ancestry.mpr ⟨List.prefix_rfl, hne⟩, rfl⟩)

/-- An insertion hangs each leading part on its parent, and nothing else. -/
theorem mem_childrenOf_insert (t : ResourceTree) (ss : Segments) (par : Parent) (k : String) :
    k ∈ (t.insert ss).childrenOf par ↔
      k ∈ t.childrenOf par ∨
        ∃ p ∈ Path.ancestry ss, Parent.ofSegments p = par ∧ Path.key p = k := by
  induction ss using List.reverseRecOn with
  | nil => simp [ResourceTree.insert, Path.ancestry]
  | append_singleton ss s ih =>
    rw [insert_concat, mem_childrenOf_grow (offers_insert t ss s), ih, Path.ancestry_concat]
    simp only [List.mem_append, List.mem_singleton, or_and_right, exists_or, exists_eq_left,
      or_assoc]

theorem Links.insert (h : t.Links P) (ss : Segments) :
    (t.insert ss).Links fun p => P p ∨ p ∈ Path.ancestry ss := by
  intro par k
  rw [mem_childrenOf_insert, h par k]
  simp only [or_and_right, exists_or]

theorem Links.foldl_insert (h : t.Links P) (rs : List Segments) :
    (rs.foldl ResourceTree.insert t).Links fun p => P p ∨ ∃ ss ∈ rs, p ∈ Path.ancestry ss := by
  induction rs generalizing t P with
  | nil => simpa using h
  | cons ss rs ih =>
    have hrest := ih (h.insert ss)
    simpa [or_assoc] using hrest

theorem links_ofLists (rs : List Segments) : (ofLists rs).Links (· ∈ Path.parts rs) := by
  have h := links_empty.foldl_insert rs
  simpa [ofLists, Path.parts] using h

end Growth

/-- What a node says of the leading part it stands for, among all parts of the tree. -/
structure Node.StandsFor (n : Node) (p : Segments) (P : Set Segments) : Prop where
  segments : n.segments = p
  lastSegment : p.getLast? = some n.lastSegment
  name : n.name = Path.resourceName p
  parent : n.parent = if p.length = 1 then .root else .path (Path.key p.dropLast)
  children : ∀ k, k ∈ n.children ↔ ∃ s, p ++ [s] ∈ P ∧ Path.key (p ++ [s]) = k

/-- The tree has a node for every leading part in `P`, and nothing else. -/
structure ConsistsOf (t : ResourceTree) (P : Set Segments) : Prop where
  present : ∀ k, (∃ n, t.get? k = some n) ↔ ∃ p ∈ P, k = Path.key p
  unique : ∀ p ∈ P, ∀ q ∈ P, Path.key p = Path.key q → p = q
  node : ∀ p ∈ P, ∀ n, t.get? (Path.key p) = some n → n.StandsFor p P
  roots : ∀ k, k ∈ t.roots ↔ ∃ p ∈ P, p.length = 1 ∧ Path.key p = k
  size : P.encard = t.size

section ConsistsOf

variable {t u : ResourceTree} {P Q : Set Segments} {rs : List Segments} {p : Segments} {n : Node}

theorem mem_children_iff (hrs : ∀ ss ∈ rs, Path.SlashFree ss) (hp : p ∈ Path.parts rs)
    (hn : (ofLists rs).get? (Path.key p) = some n) (k : String) :
    k ∈ n.children ↔ ∃ s, p ++ [s] ∈ Path.parts rs ∧ Path.key (p ++ [s]) = k := by
  have hchildren : k ∈ n.children ↔ k ∈ (ofLists rs).childrenOf (.path (Path.key p)) := by
    rw [childrenOf, hn]
    rfl
  rw [hchildren, links_ofLists rs]
  constructor
  · rintro ⟨q, hq, hparent, hkey⟩
    obtain ⟨hlen, hdrop⟩ := Parent.ofSegments_eq_path_iff.mp hparent
    have hpart := parts_kind hrs (Path.dropLast_mem_parts hq hlen)
    obtain ⟨hne, hfree⟩ := parts_kind hrs hp
    have heq : q.dropLast = p := Path.key_injective hpart.2 hfree hpart.1 hne hdrop
    obtain ⟨s, rfl⟩ : ∃ s, q = p ++ [s] := by
      rw [← heq]
      exact ⟨_, (List.dropLast_append_getLast (Path.ne_nil_of_mem_parts hq)).symm⟩
    exact ⟨s, hq, hkey⟩
  · rintro ⟨s, hq, hkey⟩
    refine ⟨p ++ [s], hq, ?_, hkey⟩
    have hpos := List.length_pos_iff.mpr (Path.ne_nil_of_mem_parts hp)
    rw [Parent.ofSegments_eq_path_iff, List.length_append, List.length_singleton,
      List.dropLast_concat]
    exact ⟨by omega, rfl⟩

theorem standsFor_of_get? (hrs : ∀ ss ∈ rs, Path.SlashFree ss) (hp : p ∈ Path.parts rs)
    (hn : (ofLists rs).get? (Path.key p) = some n) : n.StandsFor p (Path.leading rs) := by
  obtain ⟨m, hm, rfl⟩ := (holds_ofLists rs).get?_key (parts_kind hrs) hp
  obtain rfl : m = n := Option.some.inj (hm.symm.trans hn)
  have hcoherent := (holds_ofLists rs).coherent hn
  have hne : m.segments ≠ [] := Path.ne_nil_of_mem_parts hp
  refine ⟨rfl, hcoherent.getLast?_segments hne, hcoherent.name, ?_, ?_⟩
  · have hpos := List.length_pos_iff.mpr hne
    rw [hcoherent.parent, Parent.ofSegments]
    exact if_congr (by omega) rfl rfl
  · intro k
    simp only [Path.mem_leading_iff]
    exact mem_children_iff hrs hp hn k

theorem consistsOf_ofLists (hrs : ∀ ss ∈ rs, Path.SlashFree ss) :
    (ofLists rs).ConsistsOf (Path.leading rs) where
  present k := by
    have holds := holds_ofLists rs
    constructor
    · rintro ⟨n, hn⟩
      obtain ⟨hkey, hpart⟩ := holds.stored hn
      exact ⟨n.segments, Path.mem_leading_iff.mpr hpart, hkey⟩
    · rintro ⟨p, hp, rfl⟩
      exact holds.present (Path.mem_leading_iff.mp hp)
  unique p hp q hq hkey := by
    obtain ⟨hp₀, hpfree⟩ := parts_kind hrs (Path.mem_leading_iff.mp hp)
    obtain ⟨hq₀, hqfree⟩ := parts_kind hrs (Path.mem_leading_iff.mp hq)
    exact Path.key_injective hpfree hqfree hp₀ hq₀ hkey
  node p hp n hn := standsFor_of_get? hrs (Path.mem_leading_iff.mp hp) hn
  roots k := by
    have hroots := links_ofLists rs .root k
    rw [childrenOf] at hroots
    rw [hroots]
    refine exists_congr fun p => ?_
    rw [Path.mem_leading_iff]
    refine and_congr_right fun hp => and_congr_left fun _ => ?_
    have hpos := List.length_pos_iff.mpr (Path.ne_nil_of_mem_parts hp)
    rw [Parent.ofSegments_eq_root_iff]
    omega
  size := by rw [Path.encard_leading, size_ofLists hrs]

theorem ConsistsOf.mem_iff (h : t.ConsistsOf P) :
    p ∈ P ↔ ∃ k n, t.get? k = some n ∧ n.segments = p := by
  constructor
  · intro hp
    obtain ⟨n, hn⟩ := (h.present _).mpr ⟨p, hp, rfl⟩
    exact ⟨_, n, hn, (h.node p hp n hn).segments⟩
  · rintro ⟨k, n, hn, rfl⟩
    obtain ⟨q, hq, rfl⟩ := (h.present k).mp ⟨n, hn⟩
    rwa [(h.node q hq n hn).segments]

theorem Node.StandsFor.eq {m : Node} (hm : m.StandsFor p P) (hn : n.StandsFor p P) : m = n := by
  have hseg : m.segments = n.segments := hm.segments.trans hn.segments.symm
  have hlast : m.lastSegment = n.lastSegment :=
    Option.some.inj (hm.lastSegment.symm.trans hn.lastSegment)
  have hparent : m.parent = n.parent := hm.parent.trans hn.parent.symm
  have hname : m.name = n.name := hm.name.trans hn.name.symm
  have hchildren : m.children = n.children := by
    ext k
    exact (hm.children k).trans (hn.children k).symm
  exact Node.ext hseg hlast hparent hname hchildren

/-- A tree has nothing in it but the parts that it consists of. -/
theorem ConsistsOf.eq (ht : t.ConsistsOf P) (hu : u.ConsistsOf P) : t = u := by
  have hroots : t.roots = u.roots := by
    ext k
    exact (ht.roots k).trans (hu.roots k).symm
  refine eq_of_get? (fun k => ?_) hroots
  by_cases hk : ∃ p ∈ P, k = Path.key p
  · obtain ⟨n, hn⟩ := (ht.present k).mpr hk
    obtain ⟨m, hm⟩ := (hu.present k).mpr hk
    obtain ⟨p, hp, rfl⟩ := hk
    rw [hn, hm, (ht.node p hp n hn).eq (hu.node p hp m hm)]
  · have hnone {v : ResourceTree} (hv : v.ConsistsOf P) : v.get? k = none := by
      rw [Option.eq_none_iff_forall_ne_some]
      intro n hn
      exact hk ((hv.present k).mp ⟨n, hn⟩)
    rw [hnone ht, hnone hu]

theorem ConsistsOf.eq_iff (ht : t.ConsistsOf P) (hu : u.ConsistsOf Q) : t = u ↔ P = Q := by
  constructor
  · rintro rfl
    ext p
    exact ht.mem_iff.trans hu.mem_iff.symm
  · rintro rfl
    exact ht.eq hu

end ConsistsOf

theorem slashFree_of_mapM_segments {es : List Endpoint} {rs : List Segments}
    (h : (es.mapM fun e => Path.segments e.path) = .ok rs) : ∀ ss ∈ rs, Path.SlashFree ss := by
  have hroutable : Endpoint.Routable es := Endpoint.exists_eq_ok_of_mapM h
  rw [hroutable.mapM_segments, Except.ok.injEq] at h
  exact h ▸ Endpoint.forall_mem_slashFree es

/-- A tree consists of the leading parts of the lists that were added to it, however they overlap.
The segments of a path have no slash, so this covers every tree that is built for endpoints. -/
theorem consistsOf_leading :
    (∀ rs : List Segments, (∀ ss ∈ rs, Path.SlashFree ss) →
      (rs.foldl insert empty).ConsistsOf (Path.leading rs)) ∧
    ∀ (es : List Endpoint) (rs : List Segments),
      (es.mapM fun e => Path.segments e.path) = .ok rs →
      ∃ t, build es = .ok t ∧ t.ConsistsOf (Path.leading rs) := by
  refine ⟨fun rs hrs => consistsOf_ofLists hrs, fun es rs h => ⟨ofLists rs, ?_, ?_⟩⟩
  · rw [build_eq, h]
    rfl
  · exact consistsOf_ofLists (slashFree_of_mapM_segments h)

theorem consistsOf_leading_overlap :
    ([["", "b"], [], ["a", ""], ["", "c", ""], [""]].foldl insert empty).ConsistsOf
      (Path.leading [["", "b"], [], ["a", ""], ["", "c", ""], [""]]) ∧
    ∃ t, build [⟨"/a//b/", .get, "https://example.com", false⟩,
        ⟨"a", .put, "https://example.com", true⟩] = .ok t ∧
      t.ConsistsOf (Path.leading [["a", "b"], ["a"]]) := by
  obtain ⟨hlists, hbuild⟩ := consistsOf_leading
  exact ⟨hlists _ (by unfold Path.SlashFree; decide), hbuild _ _ (by decide +kernel)⟩

end ResourceTree
end ApiGateway
