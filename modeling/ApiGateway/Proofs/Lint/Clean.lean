import ApiGateway.Lint
import ApiGateway.Proofs.Terraform.Outline

/-! When there is nothing to report: every path has a segment, no two leading parts share a resource
name, and no two endpoints define the same method. Whatever is reported, it is about segments and
verbs: backends and API keys play no part. -/

namespace ApiGateway

namespace Lint

section Shared

variable {α : Type} {key : α → String} {xs ys : List α} {k : String}

theorem count_map (key : α → String) (xs : List α) (k : String) :
    (xs.map key).count k = (xs.filter (key · = k)).length := by
  rw [List.count_eq_countP, List.countP_map, List.countP_eq_length_filter]
  refine congrArg (fun p => (xs.filter p).length) (funext fun x => ?_)
  simp [beq_eq_decide]

theorem mem_shared : (k, ys) ∈ shared key xs ↔ ys = xs.filter (key · = k) ∧ 1 < ys.length := by
  simp only [shared, List.mem_filter, List.mem_map, Std.ExtTreeSet.mem_toList,
    Std.ExtTreeSet.mem_ofList, List.contains_iff_mem, Prod.mk.injEq, decide_eq_true_eq]
  constructor
  · rintro ⟨⟨_, -, rfl, rfl⟩, hlen⟩
    exact ⟨rfl, hlen⟩
  · rintro ⟨rfl, hlen⟩
    obtain ⟨x, hx⟩ := List.exists_mem_of_length_pos (Nat.lt_trans Nat.zero_lt_one hlen)
    obtain ⟨hmem, hkey⟩ := List.mem_filter.mp hx
    exact ⟨⟨k, ⟨x, hmem, of_decide_eq_true hkey⟩, rfl, rfl⟩, hlen⟩

theorem pairwise_shared (key : α → String) (xs : List α) :
    (shared key xs).Pairwise fun a b => compare a.1 b.1 = .lt := by
  have hkeys : (Std.ExtTreeSet.ofList (xs.map key)).toList.Pairwise fun a b =>
      compare a b = .lt := Std.ExtTreeSet.ordered_toList
  exact List.Pairwise.filter _ (List.pairwise_map.mpr hkeys)

theorem mem_keys_shared : k ∈ (shared key xs).map Prod.fst ↔ 1 < (xs.map key).count k := by
  rw [count_map, List.mem_map]
  constructor
  · rintro ⟨⟨k, ys⟩, hmem, rfl⟩
    obtain ⟨rfl, hlen⟩ := mem_shared.mp hmem
    exact hlen
  · exact fun hlen => ⟨(k, _), mem_shared.mpr ⟨rfl, hlen⟩, rfl⟩

theorem shared_eq_nil_iff : shared key xs = [] ↔ (xs.map key).Nodup := by
  rw [← List.map_eq_nil_iff (f := Prod.fst), List.eq_nil_iff_forall_not_mem,
    List.nodup_iff_count_le_one]
  exact forall_congr' fun k => by rw [mem_keys_shared, Nat.not_lt]

end Shared

section Routes

variable {es : List Endpoint}

/-- The segmentable endpoints with their positions, counted from one. -/
def segmentable (es : List Endpoint) : List (Endpoint × Nat) :=
  (numbered es).filter (·.1.segments ≠ [])

theorem routes_eq (es : List Endpoint) :
    routes es = (segmentable es).map fun x => (x.1.segments, x.1.method, x.2) := by
  unfold routes segmentable
  induction numbered es with
  | nil => rfl
  | cons x xs ih =>
    rw [List.filterMap_cons, List.filter_cons, ih]
    by_cases hx : x.1.segments = []
    · simp [hx, Endpoint.segments_eq_error hx]
    · simp [hx, Endpoint.segments_eq_ok_iff_ne_nil.mpr hx]

theorem map_fst_numbered (es : List Endpoint) : (numbered es).map Prod.fst = es :=
  List.zipIdx_map_fst 1 es

/-- An endpoint without segments adds nothing to a tree. -/
theorem foldl_insert_filter (xs : List (Endpoint × Nat)) (t : ResourceTree) :
    (xs.filter (·.1.segments ≠ [])).foldl (fun t x => t.insert x.1.segments) t =
      xs.foldl (fun t x => t.insert x.1.segments) t := by
  induction xs generalizing t with
  | nil => rfl
  | cons x xs ih =>
    rw [List.filter_cons]
    by_cases hx : x.1.segments = []
    · simpa [hx, ResourceTree.insert, Path.ancestry] using ih t
    · simpa [hx] using ih (t.insert x.1.segments)

theorem tree_eq (es : List Endpoint) : tree es = .ofLists (es.map Endpoint.segments) := by
  rw [tree, routes_eq, List.foldl_map, ResourceTree.ofLists]
  conv_rhs => rw [← map_fst_numbered es, List.map_map, List.foldl_map]
  exact foldl_insert_filter (numbered es) .empty

theorem names_tree_perm (es : List Endpoint) :
    ((tree es).toList.map ResourceTree.Node.name).Perm
      ((Endpoint.parts es).map Path.resourceName) := by
  rw [tree_eq]
  exact ResourceTree.names_perm_parts (Endpoint.forall_mem_slashFree es)

theorem segmentable_eq_numbered (h : Endpoint.Routable es) : segmentable es = numbered es := by
  refine List.filter_eq_self.mpr fun x hx => decide_eq_true ?_
  have hmem : x.1 ∈ es := map_fst_numbered es ▸ List.mem_map_of_mem hx
  exact Endpoint.routable_iff.mp h x.1 hmem

theorem emptyPaths_eq_nil_iff : emptyPaths es = [] ↔ Endpoint.Routable es := by
  rw [emptyPaths, List.filterMap_eq_nil_iff, Endpoint.Routable]
  constructor
  · intro h e he
    obtain ⟨x, hx, rfl⟩ := List.mem_map.mp ((map_fst_numbered es).symm ▸ he)
    have hnone := h x hx
    cases hseg : Path.segments x.1.path with
    | ok ss => exact ⟨ss, rfl⟩
    | error err => simp [hseg] at hnone
  · rintro h ⟨e, i⟩ hx
    obtain ⟨ss, hss⟩ := h e (map_fst_numbered es ▸ List.mem_map_of_mem hx)
    simp [hss]

theorem sharedNames_eq_nil_iff :
    sharedNames es = [] ↔ ((Endpoint.parts es).map Path.resourceName).Nodup := by
  rw [sharedNames, List.map_eq_nil_iff, shared_eq_nil_iff, (names_tree_perm es).nodup_iff]

def routeName (r : Segments × Method × Nat) : String :=
  Terraform.methodName (Path.resourceName r.1) r.2.1

theorem map_routeName (h : Endpoint.Routable es) :
    (routes es).map routeName = es.map Endpoint.methodName := by
  rw [routes_eq, segmentable_eq_numbered h, List.map_map]
  conv_rhs => rw [← map_fst_numbered es, List.map_map]
  rfl

theorem sharedMethods_eq_nil_iff (h : Endpoint.Routable es) :
    sharedMethods es = [] ↔ (es.map Endpoint.methodName).Nodup := by
  rw [← map_routeName h, ← shared_eq_nil_iff, sharedMethods, List.map_eq_nil_iff]
  rfl

theorem problems_eq_nil_iff : problems es = [] ↔
    Endpoint.Routable es ∧ ((Endpoint.parts es).map Path.resourceName).Nodup ∧
      (es.map Endpoint.methodName).Nodup := by
  rw [problems, List.append_eq_nil_iff, List.append_eq_nil_iff, emptyPaths_eq_nil_iff,
    sharedNames_eq_nil_iff, and_assoc]
  exact and_congr_right fun h => and_congr_right fun _ => sharedMethods_eq_nil_iff h

end Routes

section Agreement

variable {es fs : List Endpoint}

/-- What is asked of an endpoint: its segments, or why it has none, and its verb. -/
def route (e : Endpoint) : Except EmptyPath Segments × Method := (Path.segments e.path, e.method)

theorem filterMap_numbered_congr {β : Type} {F : Endpoint × Nat → Option β}
    (hF : ∀ e f i, route e = route f → F (e, i) = F (f, i)) (h : es.map route = fs.map route) :
    (numbered es).filterMap F = (numbered fs).filterMap F := by
  unfold numbered
  generalize 1 = first
  induction es generalizing fs first with
  | nil =>
    rw [List.map_nil, eq_comm, List.map_eq_nil_iff] at h
    rw [h]
  | cons e es ih =>
    cases fs with
    | nil => cases h
    | cons f fs =>
      obtain ⟨hroute, hrest⟩ := List.cons.inj h
      rw [List.zipIdx_cons, List.zipIdx_cons, List.filterMap_cons, List.filterMap_cons,
        hF e f first hroute, ih hrest]

variable (h : es.map route = fs.map route)
include h

theorem emptyPaths_congr : emptyPaths es = emptyPaths fs := by
  refine filterMap_numbered_congr (fun e f i hroute => ?_) h
  have hsegments : Path.segments e.path = Path.segments f.path := congrArg Prod.fst hroute
  simp only [hsegments]

theorem routes_congr : routes es = routes fs := by
  refine filterMap_numbered_congr (fun e f i hroute => ?_) h
  have hsegments : Path.segments e.path = Path.segments f.path := congrArg Prod.fst hroute
  have hmethod : e.method = f.method := congrArg Prod.snd hroute
  simp only [hsegments, hmethod]

theorem problems_congr : problems es = problems fs := by
  simp only [problems, sharedNames, sharedMethods, tree, emptyPaths_congr h, routes_congr h]

end Agreement

theorem map_route_overrideApiKey (required : Bool) (es : List Endpoint) :
    (Endpoint.overrideApiKey required es).map route = es.map route := by
  rw [Endpoint.overrideApiKey, List.map_map]
  rfl

theorem problems_overrideApiKey (required : Bool) (es : List Endpoint) :
    problems (Endpoint.overrideApiKey required es) = problems es :=
  problems_congr (map_route_overrideApiKey required es)

end Lint
end ApiGateway
