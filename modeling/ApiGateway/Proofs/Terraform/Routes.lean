import ApiGateway.Endpoint.Sample
import ApiGateway.Proofs.Lint.Clean
import ApiGateway.Proofs.Terraform.References

/-! What the blocks of a configuration say about routes. With nothing for the linter to report every
resource name stands for one path, and the way up from the resource of a method spells the path of
its endpoint. -/

namespace ApiGateway.Terraform

/-- The path parts on the way up from a reference, over exactly so many resources to the root. The
part next to the root comes first. -/
def ascend (rs : List Block) : Nat → String → Option (List String)
  | 0, ref => if ref = rootResourceId then some [] else none
  | n + 1, ref => do
    let b ← rs.find? fun b => idOf b.address = ref
    let above ← ascend rs n (← b.attribute? "parent_id")
    return above ++ [← b.attribute? "path_part"]

/-- A method block and an integration block that make an endpoint reachable under its path. -/
structure Serves (rs : List Block) (e : Endpoint) (m n : Block) : Prop where
  target : ∃ x ∈ rs, m.attribute? "resource_id" = some (idOf x.address) ∧
    n.attribute? "resource_id" = some (idOf x.address) ∧
    ∃ ss, Path.segments e.path = .ok ss ∧
      ascend rs ss.length (idOf x.address) = some (ss.map quote)
  verb : m.attribute? "http_method" = some (quote e.method.verb)
  apiKey : m.attribute? "api_key_required" = some (if e.apiKeyRequired then "true" else "false")
  uri : n.attribute? "uri" = some (quote e.backendUri)
  via : n.attribute? "http_method" = some (m.address ++ ".http_method")
  depends : n.attribute? "depends_on" = some (listOf m.address)

/-- The blocks of a configuration denote the routes of the endpoints, one by one and no others. -/
structure Denotes (es : List Endpoint) (rs ms is : List Block) : Prop
    extends Sections rs ms is where
  length_methods : ms.length = es.length
  length_integrations : is.length = es.length
  served : ∀ (i : Nat) e m n, es[i]? = some e → ms[i]? = some m → is[i]? = some n →
    Serves rs e m n
  nodup_resources : (rs.map Block.name).Nodup
  nodup_methods : (ms.map Block.name).Nodup
  nodup_integrations : (is.map Block.name).Nodup
  length_resources : rs.length = (Endpoint.parts es).length

section Ascent

variable {es : List Endpoint} {p : Segments}

theorem find?_of_nodup {α β : Type} [DecidableEq β] {f : α → β} {xs : List α} {x : α}
    (h : (xs.map f).Nodup) (hx : x ∈ xs) : xs.find? (f · = f x) = some x := by
  have hsome : (xs.find? (f · = f x)).isSome := List.find?_isSome.mpr ⟨x, hx, by simp⟩
  obtain ⟨y, hy⟩ := Option.isSome_iff_exists.mp hsome
  have hkey : f y = f x := by simpa using List.find?_some hy
  rw [hy, List.inj_on_of_nodup_map h (List.mem_of_find?_eq_some hy) hx hkey]

theorem find?_resourceBlocks (hp : p ∈ Path.kept (es.map Endpoint.segments)) :
    (resourceBlocks es).find? (fun b => idOf b.address = idOf (resourceBlock p).address) =
      some (resourceBlock p) := by
  refine find?_of_nodup (f := fun b : Block => idOf b.address) ?_ (List.mem_map_of_mem hp)
  rw [resourceBlocks, List.map_map]
  refine List.Nodup.map_on ?_ (Path.nodup_names_kept _).of_map
  intro q hq q' hq' heq
  exact List.inj_on_of_nodup_map (Path.nodup_names_kept _) hq hq'
    (reference_inj.mp (idOf_inj.mp heq)).2

theorem map_quote_eq (h : p ≠ []) :
    p.map quote = p.dropLast.map quote ++ [quote (p.getLastD "")] := by
  conv_lhs => rw [← List.dropLast_append_getLast h]
  rw [List.map_append, List.getLastD_eq_getLast?, List.getLast?_eq_some_getLast h]
  rfl

/-- Where no name is shared, the way up from the resource of a leading part spells that part. -/
theorem ascend_part (h : ((Endpoint.parts es).map Path.resourceName).Nodup) {n : Nat}
    (hp : p ∈ Endpoint.parts es) (hn : p.length = n) :
    ascend (resourceBlocks es) n (idOf (resourceBlock p).address) = some (p.map quote) := by
  induction n generalizing p with
  | zero => exact absurd (List.length_eq_zero_iff.mp hn) (Path.ne_nil_of_mem_parts hp)
  | succ n ih =>
    -- One step up is the resource of `p.dropLast`, whose name no other part has.
    rw [ascend, find?_resourceBlocks (Path.kept_eq_sort h ▸ Path.mem_sort.mpr hp),
      map_quote_eq (Path.ne_nil_of_mem_parts hp)]
    have hpart : (resourceBlock p).attribute? "path_part" = some (quote (p.getLastD "")) := rfl
    by_cases hlen : 1 < p.length
    · have habove := ih (Path.dropLast_mem_parts hp hlen) (by rw [List.length_dropLast]; omega)
      have hid : (resourceBlock p).attribute? "parent_id" =
          some (idOf (resourceBlock p.dropLast).address) := by
        rw [resourceBlock, parentOf_of_below hlen]
        rfl
      simp [hid, habove, hpart]
    · have hid : (resourceBlock p).attribute? "parent_id" = some rootResourceId := by
        rw [resourceBlock, parentOf_of_top hlen]
        rfl
      obtain rfl : n = 0 := by omega
      have hdrop : p.dropLast.length = 0 := by rw [List.length_dropLast, hn]
      simp [hid, hpart, ascend, List.eq_nil_of_length_eq_zero hdrop]

end Ascent

variable {es : List Endpoint}

theorem serves_of_nodup (h : Endpoint.Routable es)
    (hnames : ((Endpoint.parts es).map Path.resourceName).Nodup) {e : Endpoint} (he : e ∈ es) :
    Serves (resourceBlocks es) e (methodOf e) (integrationOf e) where
  target := by
    have hpart := Endpoint.segments_mem_parts he (Endpoint.routable_iff.mp h e he)
    have hkept : e.segments ∈ Path.kept (es.map Endpoint.segments) :=
      Path.kept_eq_sort hnames ▸ Path.mem_sort.mpr hpart
    exact ⟨resourceBlock e.segments, List.mem_map_of_mem hkept, rfl, rfl, e.segments,
      h.segments_eq_ok he, ascend_part hnames hpart rfl⟩
  verb := rfl
  apiKey := rfl
  uri := rfl
  via := rfl
  depends := rfl

theorem nodup_integration_names (h : (es.map Endpoint.methodName).Nodup) :
    ((es.map integrationOf).map Block.name).Nodup := by
  have hsuffix : Function.Injective fun name : String => name ++ "_integration" :=
    fun _ _ hname => (String.append_left_inj _).mp hname
  have hmap := h.map hsuffix
  rwa [List.map_map] at hmap ⊢

theorem denotes_of_nodup (h : Endpoint.Routable es)
    (hnames : ((Endpoint.parts es).map Path.resourceName).Nodup)
    (hmethods : (es.map Endpoint.methodName).Nodup) :
    Denotes es (resourceBlocks es) (es.map methodOf) (es.map integrationOf) where
  toSections := sections_outline es
  length_methods := List.length_map _
  length_integrations := List.length_map _
  served i e m n he hm hn := by
    rw [List.getElem?_map, he] at hm hn
    obtain ⟨rfl, rfl⟩ := And.intro (Option.some.inj hm) (Option.some.inj hn)
    exact serves_of_nodup h hnames (List.mem_of_getElem? he)
  nodup_resources := (closed_outline h).nodup_names
  nodup_methods := by rwa [List.map_map]
  nodup_integrations := nodup_integration_names hmethods
  length_resources := by
    rw [resourceBlocks, List.length_map, Path.kept_eq_sort hnames, (Path.sort_perm _).length_eq]
    rfl

end ApiGateway.Terraform
