import ApiGateway.Proofs.Lint.Clean
import Mathlib.Order.Compare
import Mathlib.Data.String.Basic

/-! What the lines of a report say: one for every path without segments, one for every name that
several leading parts share, and one for every name and verb that several endpoints share. -/

namespace ApiGateway.Lint

/-- The list holds what is of the kind `P`, in ascending order, so that nothing is in it twice. -/
structure Lists {α : Type} (P : α → Prop) (lt : α → α → Prop) (xs : List α) : Prop where
  mem_iff : ∀ x, x ∈ xs ↔ P x
  ascending : xs.Pairwise lt

/-- The endpoint at a position, counted from one, defines the method of a resource for a verb. -/
def Defines (es : List Endpoint) (resource : String) (m : Method) (i : Nat) : Prop :=
  ∃ j e ss, i = j + 1 ∧ es[j]? = some e ∧ Path.segments e.path = .ok ss ∧
    Path.resourceName ss = resource ∧ e.method = m

/-- The lines about a list of endpoints, and what stands in them: positions with paths, names with
keys, and names and verbs with positions. -/
structure Report (es : List Endpoint) (as : List (Nat × String)) (bs : List (String × List String))
    (cs : List (String × Method × List Nat)) : Prop where
  lines : (problems es).map Problem.message =
    as.map (fun a => "Endpoint " ++ toString a.1 ++ ": " ++ EmptyPath.message ⟨a.2⟩) ++
    bs.map (fun b => "Paths " ++ Text.joinWith ", " b.2 ++ " all map to resource name " ++ b.1) ++
    cs.map fun c => "Endpoints " ++ Text.joinWith ", " (c.2.2.map toString) ++
      " all define method " ++ Terraform.methodName c.1 c.2.1
  paths : Lists (fun a => ∃ j e, a = (j + 1, e.path) ∧ es[j]? = some e ∧
    Path.segments e.path = .error ⟨e.path⟩) (fun a b => a.1 < b.1) as
  names : Lists (fun b => (∃ p ∈ Endpoint.parts es, ∃ q ∈ Endpoint.parts es, p ≠ q ∧
      Path.resourceName p = b.1 ∧ Path.resourceName q = b.1) ∧
    Lists (fun k => ∃ p ∈ Endpoint.parts es, Path.resourceName p = b.1 ∧ Path.key p = k)
      (· < ·) b.2) (fun b c => b.1 < c.1) bs
  methods : Lists (fun c => (∃ i j, i ≠ j ∧ Defines es c.1 c.2.1 i ∧ Defines es c.1 c.2.1 j) ∧
    Lists (Defines es c.1 c.2.1) (· < ·) c.2.2)
      (fun c d => Terraform.methodName c.1 c.2.1 < Terraform.methodName d.1 d.2.1) cs

section Lists

variable {α : Type} {P : α → Prop} {lt : α → α → Prop} {xs ys : List α}

theorem Lists.nodup [Std.Asymm lt] (hx : Lists P lt xs) : xs.Nodup := by
  refine List.Pairwise.imp ?_ hx.ascending
  rintro a b hab rfl
  exact Std.Asymm.asymm a a hab hab

theorem Lists.unique [Std.Asymm lt] (hx : Lists P lt xs) (hy : Lists P lt ys) : xs = ys := by
  have hperm : xs.Perm ys := (List.perm_ext_iff_of_nodup hx.nodup hy.nodup).mpr
    fun x => (hx.mem_iff x).trans (hy.mem_iff x).symm
  exact List.Perm.eq_of_pairwise (fun a b _ _ hab hba => (Std.Asymm.asymm a b hab hba).elim)
    hx.ascending hy.ascending hperm

theorem one_lt_length_iff (h : xs.Nodup) : 1 < xs.length ↔ ∃ a ∈ xs, ∃ b ∈ xs, a ≠ b := by
  constructor
  · intro hlen
    match xs, h with
    | a :: b :: _, h =>
      have hne : a ≠ b := fun heq => (List.nodup_cons.mp h).1 (heq ▸ List.mem_cons_self)
      exact ⟨a, by simp, b, by simp, hne⟩
  · rintro ⟨a, ha, b, hb, hne⟩
    match xs with
    | [] => cases ha
    | [c] =>
      rw [List.mem_singleton] at ha hb
      exact absurd (ha.trans hb.symm) hne
    | _ :: _ :: _ => simp

end Lists

section Numbered

variable {es : List Endpoint} {e : Endpoint} {i : Nat}

theorem mem_numbered : (e, i) ∈ numbered es ↔ ∃ j, i = j + 1 ∧ es[j]? = some e := by
  rw [numbered, List.mk_mem_zipIdx_iff_le_and_getElem?_sub]
  constructor
  · rintro ⟨hle, h⟩
    exact ⟨i - 1, by omega, h⟩
  · rintro ⟨j, rfl, h⟩
    exact ⟨by omega, h⟩

theorem pairwise_numbered (es : List Endpoint) :
    (numbered es).Pairwise fun x y => x.2 < y.2 := by
  rw [← List.pairwise_map, numbered, List.zipIdx_map_snd]
  exact List.pairwise_lt_range' 1

end Numbered

section EmptyPaths

def emptyPathsOf (es : List Endpoint) : List (Nat × String) :=
  ((numbered es).filter (·.1.segments = [])).map fun x => (x.2, x.1.path)

variable {es : List Endpoint}

theorem emptyPaths_eq (es : List Endpoint) :
    emptyPaths es = (emptyPathsOf es).map fun a => .emptyPath a.1 ⟨a.2⟩ := by
  unfold emptyPaths emptyPathsOf
  induction numbered es with
  | nil => rfl
  | cons x xs ih =>
    rw [List.filterMap_cons, List.filter_cons, ih]
    by_cases hx : x.1.segments = []
    · simp [hx, Endpoint.segments_eq_error hx]
    · simp [hx, Endpoint.segments_eq_ok_iff_ne_nil.mpr hx]

theorem lists_emptyPathsOf (es : List Endpoint) :
    Lists (fun a => ∃ j e, a = (j + 1, e.path) ∧ es[j]? = some e ∧
      Path.segments e.path = .error ⟨e.path⟩) (fun a b => a.1 < b.1) (emptyPathsOf es) where
  mem_iff a := by
    simp only [emptyPathsOf, List.mem_map, List.mem_filter, Prod.exists, mem_numbered,
      decide_eq_true_eq, Path.segments_eq_error_iff, and_true]
    constructor
    · rintro ⟨e, _, ⟨⟨j, rfl, hj⟩, hseg⟩, rfl⟩
      exact ⟨j, e, rfl, hj, hseg⟩
    · rintro ⟨j, e, rfl, hj, hseg⟩
      exact ⟨e, j + 1, ⟨⟨j, rfl, hj⟩, hseg⟩, rfl⟩
  ascending := List.pairwise_map.mpr ((pairwise_numbered es).filter _)

end EmptyPaths

section Names

def keysOf (es : List Endpoint) (name : String) : List String :=
  ((tree es).toList.filter (ResourceTree.Node.name · = name)).map ResourceTree.Node.path

/-- The names that several leading parts share, each with their keys. -/
def sharedKeys (es : List Endpoint) : List (String × List String) :=
  (shared ResourceTree.Node.name (tree es).toList).map fun g =>
    (g.1, g.2.map ResourceTree.Node.path)

variable {es : List Endpoint} {name : String} {p : Segments}

theorem sharedNames_eq (es : List Endpoint) :
    sharedNames es = (sharedKeys es).map fun b => .sharedName b.2 b.1 := by
  rw [sharedKeys, List.map_map]
  rfl

theorem mem_segments_tree :
    p ∈ (tree es).toList.map ResourceTree.Node.segments ↔ p ∈ Endpoint.parts es := by
  rw [tree_eq]
  exact (ResourceTree.holds_ofLists _).mem_segments
    (ResourceTree.parts_kind (Endpoint.forall_mem_slashFree es))

theorem name_of_mem_tree {n : ResourceTree.Node} (hn : n ∈ (tree es).toList) :
    n.name = Path.resourceName n.segments := by
  rw [tree_eq] at hn
  exact ((ResourceTree.holds_ofLists _).coherent_of_mem hn).name

theorem pairwise_tree (es : List Endpoint) :
    (tree es).toList.Pairwise fun m n => m.path < n.path := by
  rw [tree_eq]
  exact (ResourceTree.holds_ofLists _).pairwise_toList.imp compare_lt_iff_lt.mp

theorem lists_keysOf (es : List Endpoint) (name : String) :
    Lists (fun k => ∃ p ∈ Endpoint.parts es, Path.resourceName p = name ∧ Path.key p = k) (· < ·)
      (keysOf es name) where
  mem_iff k := by
    simp only [keysOf, List.mem_map, List.mem_filter, decide_eq_true_eq]
    constructor
    · rintro ⟨n, ⟨hn, hname⟩, rfl⟩
      refine ⟨n.segments, mem_segments_tree.mp (List.mem_map_of_mem hn), ?_, rfl⟩
      rw [← name_of_mem_tree hn, hname]
    · rintro ⟨p, hp, hname, rfl⟩
      obtain ⟨n, hn, rfl⟩ := List.mem_map.mp (mem_segments_tree.mpr hp)
      exact ⟨n, ⟨hn, (name_of_mem_tree hn).trans hname⟩, rfl⟩
  ascending := List.pairwise_map.mpr ((pairwise_tree es).filter _)

theorem mem_sharedKeys {keys : List String} :
    (name, keys) ∈ sharedKeys es ↔ keys = keysOf es name ∧ 1 < keys.length := by
  simp only [sharedKeys, List.mem_map, Prod.exists, Prod.mk.injEq, mem_shared]
  constructor
  · rintro ⟨_, ns, ⟨rfl, hlen⟩, rfl, rfl⟩
    exact ⟨rfl, by rwa [List.length_map]⟩
  · rintro ⟨rfl, hlen⟩
    exact ⟨name, _, ⟨rfl, by rwa [keysOf, List.length_map] at hlen⟩, rfl, rfl⟩

theorem one_lt_length_keysOf : 1 < (keysOf es name).length ↔
    ∃ p ∈ Endpoint.parts es, ∃ q ∈ Endpoint.parts es, p ≠ q ∧
      Path.resourceName p = name ∧ Path.resourceName q = name := by
  rw [one_lt_length_iff (lists_keysOf es name).nodup]
  simp only [(lists_keysOf es name).mem_iff]
  constructor
  · rintro ⟨_, ⟨p, hp, hpname, rfl⟩, _, ⟨q, hq, hqname, rfl⟩, hne⟩
    exact ⟨p, hp, q, hq, fun heq => hne (congrArg Path.key heq), hpname, hqname⟩
  · rintro ⟨p, hp, q, hq, hne, hpname, hqname⟩
    refine ⟨_, ⟨p, hp, hpname, rfl⟩, _, ⟨q, hq, hqname, rfl⟩, fun hkey => hne ?_⟩
    exact Path.key_injective (Endpoint.slashFree_of_mem_parts hp)
      (Endpoint.slashFree_of_mem_parts hq) (Path.ne_nil_of_mem_parts hp)
      (Path.ne_nil_of_mem_parts hq) hkey

theorem lists_sharedKeys (es : List Endpoint) :
    Lists (fun b => (∃ p ∈ Endpoint.parts es, ∃ q ∈ Endpoint.parts es, p ≠ q ∧
        Path.resourceName p = b.1 ∧ Path.resourceName q = b.1) ∧
      Lists (fun k => ∃ p ∈ Endpoint.parts es, Path.resourceName p = b.1 ∧ Path.key p = k)
        (· < ·) b.2) (fun b c => b.1 < c.1) (sharedKeys es) where
  mem_iff := by
    rintro ⟨name, keys⟩
    rw [mem_sharedKeys, ← one_lt_length_keysOf]
    constructor
    · rintro ⟨rfl, hlen⟩
      exact ⟨hlen, lists_keysOf es name⟩
    · rintro ⟨hlen, hkeys⟩
      obtain rfl : keys = keysOf es name := hkeys.unique (lists_keysOf es name)
      exact ⟨rfl, hlen⟩
  ascending := List.pairwise_map.mpr ((pairwise_shared _ _).imp compare_lt_iff_lt.mp)

end Names

section Methods

def positionsOf (es : List Endpoint) (resource : String) (m : Method) : List Nat :=
  ((routes es).filter fun r => Path.resourceName r.1 = resource ∧ r.2.1 = m).map (·.2.2)

/-- The resources and verbs that several endpoints share, each with their positions. -/
def sharedPositions (es : List Endpoint) : List (String × Method × List Nat) :=
  (shared routeName (routes es)).filterMap fun g =>
    g.2.head?.map fun r => (Path.resourceName r.1, r.2.1, g.2.map (·.2.2))

variable {es : List Endpoint} {resource : String} {m : Method}

/-- The verb stands behind the last underscore, so a method name tells both apart. -/
theorem methodName_inj {r r' : String} {v v' : Method} :
    Terraform.methodName r v = Terraform.methodName r' v' ↔ r = r' ∧ v = v' := by
  have hpieces (r : String) (v : Method) :
      Text.pieces '_' (Terraform.methodName r v).toList =
        Text.pieces '_' r.toList ++ [v.lower.toList] := by
    have hverb : '_' ∉ v.lower.toList := by cases v <;> decide
    rw [Terraform.methodName, String.append_assoc, String.toList_append, String.toList_append,
      ← Text.pieces_of_not_mem hverb]
    exact Text.pieces_append '_' _ _
  constructor
  · intro h
    have hsplit := congrArg (fun s => Text.pieces '_' s.toList) h
    simp only [hpieces] at hsplit
    obtain rfl : v = v' := by
      have hlast := (List.append_inj' hsplit rfl).2
      exact Method.lower_injective (String.toList_injective (List.cons.inj hlast).1)
    rw [Terraform.methodName, Terraform.methodName, String.append_left_inj,
      String.append_left_inj] at h
    exact ⟨h, rfl⟩
  · rintro ⟨rfl, rfl⟩
    rfl

theorem filter_routeName (es : List Endpoint) (resource : String) (m : Method) :
    (routes es).filter (routeName · = Terraform.methodName resource m) =
      (routes es).filter fun r => Path.resourceName r.1 = resource ∧ r.2.1 = m := by
  refine List.filter_congr fun r _ => ?_
  rw [decide_eq_decide, routeName, methodName_inj]

theorem mem_routes {ss : Segments} {i : Nat} : (ss, m, i) ∈ routes es ↔
    ∃ j e, i = j + 1 ∧ es[j]? = some e ∧ Path.segments e.path = .ok ss ∧ e.method = m := by
  simp only [routes_eq, segmentable, List.mem_map, List.mem_filter, Prod.exists, mem_numbered,
    decide_eq_true_eq, Prod.mk.injEq]
  constructor
  · rintro ⟨e, _, ⟨⟨j, rfl, hj⟩, hne⟩, rfl, rfl, rfl⟩
    exact ⟨j, e, rfl, hj, Endpoint.segments_eq_ok_iff_ne_nil.mpr hne, rfl⟩
  · rintro ⟨j, e, rfl, hj, hseg, rfl⟩
    obtain rfl := Endpoint.segments_of_eq_ok hseg
    exact ⟨e, j + 1, ⟨⟨j, rfl, hj⟩, Endpoint.segments_eq_ok_iff_ne_nil.mp hseg⟩, rfl, rfl, rfl⟩

theorem pairwise_routes (es : List Endpoint) :
    (routes es).Pairwise fun r s => r.2.2 < s.2.2 := by
  rw [routes_eq]
  exact List.pairwise_map.mpr ((pairwise_numbered es).filter _)

theorem lists_positionsOf (es : List Endpoint) (resource : String) (m : Method) :
    Lists (Defines es resource m) (· < ·) (positionsOf es resource m) where
  mem_iff i := by
    simp only [positionsOf, List.mem_map, List.mem_filter, decide_eq_true_eq, Prod.exists]
    constructor
    · rintro ⟨ss, _, _, ⟨hmem, hname, rfl⟩, rfl⟩
      obtain ⟨j, e, hj, he, hseg, hverb⟩ := mem_routes.mp hmem
      exact ⟨j, e, ss, hj, he, hseg, hname, hverb⟩
    · rintro ⟨j, e, ss, hj, he, hseg, hname, hverb⟩
      exact ⟨ss, m, i, ⟨mem_routes.mpr ⟨j, e, hj, he, hseg, hverb⟩, hname, rfl⟩, rfl⟩
  ascending := List.pairwise_map.mpr ((pairwise_routes es).filter _)

theorem one_lt_length_positionsOf : 1 < (positionsOf es resource m).length ↔
    ∃ i j, i ≠ j ∧ Defines es resource m i ∧ Defines es resource m j := by
  rw [one_lt_length_iff (lists_positionsOf es resource m).nodup]
  simp only [(lists_positionsOf es resource m).mem_iff]
  grind

theorem mem_sharedPositions {is : List Nat} : (resource, m, is) ∈ sharedPositions es ↔
    is = positionsOf es resource m ∧ 1 < is.length := by
  simp only [sharedPositions, List.mem_filterMap, Option.map_eq_some_iff, Prod.mk.injEq,
    Prod.exists, mem_shared]
  constructor
  · rintro ⟨name, rs, ⟨rfl, hlen⟩, ss, _, i, hhead, rfl, rfl, rfl⟩
    have hname := (List.mem_filter.mp (List.mem_of_head? hhead)).2
    obtain rfl := of_decide_eq_true hname
    rw [List.length_map, positionsOf, ← filter_routeName]
    exact ⟨rfl, hlen⟩
  · rintro ⟨rfl, hlen⟩
    rw [positionsOf, List.length_map, ← filter_routeName] at hlen
    obtain ⟨r, rs, hgroup⟩ := List.exists_cons_of_length_pos (Nat.lt_of_succ_lt hlen)
    -- Whichever route of the group is looked at, it has the resource and the verb of all of them.
    have hmem := hgroup ▸ List.mem_cons_self (a := r) (l := rs)
    obtain ⟨hresource, hverb⟩ := methodName_inj.mp (of_decide_eq_true (List.mem_filter.mp hmem).2)
    refine ⟨_, _, ⟨rfl, hlen⟩, r.1, r.2.1, r.2.2, by rw [hgroup]; rfl, hresource, hverb, ?_⟩
    rw [positionsOf, filter_routeName]

theorem map_sharedPositions (es : List Endpoint) :
    (sharedPositions es).map (fun c => (Terraform.methodName c.1 c.2.1, c.2.2)) =
      (shared routeName (routes es)).map fun g => (g.1, g.2.map (·.2.2)) := by
  rw [sharedPositions, List.map_filterMap]
  refine (List.filterMap_congr ?_).trans (congrFun List.filterMap_eq_map _)
  rintro ⟨name, rs⟩ hg
  obtain ⟨hrs, hlen⟩ := mem_shared.mp hg
  obtain ⟨r, rest, rfl⟩ := List.exists_cons_of_length_pos (Nat.lt_of_succ_lt hlen)
  have hmem := hrs ▸ List.mem_cons_self (a := r) (l := rest)
  have hname : routeName r = name := of_decide_eq_true (List.mem_filter.mp hmem).2
  simp [← hname, routeName]

theorem sharedMethods_eq (es : List Endpoint) : sharedMethods es =
    (sharedPositions es).map fun c => .sharedMethod c.2.2 (Terraform.methodName c.1 c.2.1) := by
  have h := congrArg (List.map fun g : String × List Nat => Problem.sharedMethod g.2 g.1)
    (map_sharedPositions es)
  rw [List.map_map, List.map_map] at h
  exact h.symm

theorem lists_sharedPositions (es : List Endpoint) :
    Lists (fun c => (∃ i j, i ≠ j ∧ Defines es c.1 c.2.1 i ∧ Defines es c.1 c.2.1 j) ∧
      Lists (Defines es c.1 c.2.1) (· < ·) c.2.2)
      (fun c d => Terraform.methodName c.1 c.2.1 < Terraform.methodName d.1 d.2.1)
      (sharedPositions es) where
  mem_iff := by
    rintro ⟨resource, m, is⟩
    rw [mem_sharedPositions, ← one_lt_length_positionsOf]
    constructor
    · rintro ⟨rfl, hlen⟩
      exact ⟨hlen, lists_positionsOf es resource m⟩
    · rintro ⟨hlen, his⟩
      obtain rfl : is = positionsOf es resource m := his.unique (lists_positionsOf es resource m)
      exact ⟨rfl, hlen⟩
  ascending := by
    have h : ((shared routeName (routes es)).map fun g => (g.1, g.2.map (·.2.2))).Pairwise
        fun b c => b.1 < c.1 :=
      List.pairwise_map.mpr ((pairwise_shared _ _).imp compare_lt_iff_lt.mp)
    rw [← map_sharedPositions, List.pairwise_map] at h
    exact h

end Methods

theorem report (es : List Endpoint) :
    Report es (emptyPathsOf es) (sharedKeys es) (sharedPositions es) where
  lines := by
    rw [problems, emptyPaths_eq, sharedNames_eq, sharedMethods_eq]
    simp only [List.map_append, List.map_map]
    rfl
  paths := lists_emptyPathsOf es
  names := lists_sharedKeys es
  methods := lists_sharedPositions es

example : (problems [⟨"/a/b", .get, "https://example.com", false⟩,
    ⟨"/a_b", .post, "https://example.com", false⟩]).map Problem.message =
      ["Paths /a/b, /a_b all map to resource name a_b"] := by
  decide +kernel

end ApiGateway.Lint
