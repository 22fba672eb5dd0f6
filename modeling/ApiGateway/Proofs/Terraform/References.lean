import ApiGateway.Proofs.Terraform.Outline
import Mathlib.Logic.Relation

/-! What the blocks of a configuration say of each other. Whatever names collide, every reference is
to the root or to a block further up, so none is left open and none leads back to where it began. -/

namespace ApiGateway.Terraform

/-- The attributes by which a block speaks of another one, with the form of what they say. -/
def Kind.references : Kind → List (String × (String → String))
  | resource => [("parent_id", idOf), ("depends_on", listOf)]
  | method => [("resource_id", idOf), ("depends_on", listOf)]
  | integration =>
    [("resource_id", idOf), ("http_method", (· ++ ".http_method")), ("depends_on", listOf)]

def Refers (b c : Block) : Prop :=
  ∃ r ∈ b.kind.references, b.attribute? r.1 = some (r.2 c.address)

/-- The block at one position speaks of the block at another. -/
def Edge (bs : List Block) (j k : Nat) : Prop :=
  ∃ b c, bs[j]? = some b ∧ bs[k]? = some c ∧ Refers b c

/-- Whatever a block refers to is the root or the block of a given list that declares it. -/
def Resolved (bs : List Block) : Prop :=
  ∀ b ∈ bs, ∀ r ∈ b.kind.references, ∀ v, b.attribute? r.1 = some v →
    v = rootResourceId ∨ ∃ c ∈ bs, v = r.2 c.address

/-- The three kinds of blocks, each in a section of its own. -/
structure Sections (rs ms is : List Block) : Prop where
  resources : ∀ b ∈ rs, b.kind = .resource
  methods : ∀ b ∈ ms, b.kind = .method
  integrations : ∀ b ∈ is, b.kind = .integration

/-- Every reference finds its block, and always further up. -/
structure Closed (rs ms is : List Block) : Prop extends Sections rs ms is where
  nodup_names : (rs.map Block.name).Nodup
  parent : ∀ {j : Nat} {b : Block}, rs[j]? = some b →
    b.attribute? "parent_id" = some rootResourceId ∧ b.attribute? "depends_on" = none ∨
    ∃ (i : Nat) (a : Block), i < j ∧ rs[i]? = some a ∧ a.name ≠ b.name ∧
      b.attribute? "parent_id" = some (idOf a.address) ∧
      b.attribute? "depends_on" = some (listOf a.address)
  method_target : ∀ b ∈ ms, ∃ a ∈ rs, b.attribute? "resource_id" = some (idOf a.address) ∧
    b.attribute? "depends_on" = some (listOf a.address)
  integration_target : ∀ b ∈ is, ∃ a ∈ rs, b.attribute? "resource_id" = some (idOf a.address)
  paired : List.Forall₂ (fun m n =>
    n.attribute? "http_method" = some (m.address ++ ".http_method") ∧
    n.attribute? "depends_on" = some (listOf m.address)) ms is
  backward : ∀ {j k}, Edge (rs ++ ms ++ is) j k → k < j

section Address

variable {j k : Kind} {m n : String}

theorem reference_inj : reference j m = reference k n ↔ j = k ∧ m = n := by
  constructor
  · intro h
    have hchars := congrArg String.toList h
    cases j <;> cases k <;> simp [reference, Kind.text] at hchars <;>
      exact ⟨rfl, String.toList_injective hchars⟩
  · rintro ⟨rfl, rfl⟩
    rfl

theorem idOf_inj : idOf m = idOf n ↔ m = n := String.append_left_inj _

theorem listOf_inj : listOf m = listOf n ↔ m = n := by
  simp [listOf]

theorem idOf_reference_ne_root (k : Kind) (n : String) : idOf (reference k n) ≠ rootResourceId := by
  intro h
  have hchars := congrArg String.toList h
  cases k <;> simp [idOf, reference, Kind.text, rootResourceId] at hchars

theorem address_eq_reference {c : Block} : c.address = reference k n ↔ c.kind = k ∧ c.name = n :=
  reference_inj

end Address

section Refers

variable {c : Block}

theorem refers_resource {n part : String} {parent : Option String} :
    Refers (.resource n parent part) c ↔
      ∃ p, parent = some p ∧ c.kind = .resource ∧ c.name = p := by
  simp only [← address_eq_reference]
  cases parent with
  | none =>
    have hroot : rootResourceId ≠ idOf c.address := (idOf_reference_ne_root _ _).symm
    simp [Refers, Block.kind, Kind.references, Block.attribute?, Block.attributes, Block.groups,
      List.lookup_cons, hroot]
  | some p =>
    simp [Refers, Block.kind, Kind.references, Block.attribute?, Block.attributes, Block.groups,
      List.lookup_cons, idOf_inj, listOf_inj, eq_comm]

theorem refers_method {res : String} {m : Method} {key : Bool} :
    Refers (.method res m key) c ↔ c.kind = .resource ∧ c.name = res := by
  rw [← address_eq_reference]
  simp [Refers, Block.kind, Kind.references, Block.attribute?, Block.attributes, Block.groups,
    List.lookup_cons, idOf_inj, listOf_inj, eq_comm]

theorem refers_integration {res uri : String} {m : Method} :
    Refers (.integration res m uri) c ↔
      c.kind = .resource ∧ c.name = res ∨ c.kind = .method ∧ c.name = methodName res m := by
  rw [← address_eq_reference, ← address_eq_reference]
  simp [Refers, Block.kind, Kind.references, Block.attribute?, Block.attributes, Block.groups,
    List.lookup_cons, idOf_inj, listOf_inj, eq_comm]

end Refers

section Sections

variable {rs ms is : List Block} {b : Block} {k : Nat}

theorem Sections.position_resource (h : Sections rs ms is) (hk : (rs ++ ms ++ is)[k]? = some b)
    (hb : b.kind = .resource) : rs[k]? = some b := by
  rw [List.append_assoc] at hk
  by_cases hlt : k < rs.length
  · rwa [List.getElem?_append_left hlt] at hk
  · rw [List.getElem?_append_right (Nat.not_lt.mp hlt)] at hk
    rcases List.mem_append.mp (List.mem_of_getElem? hk) with hmem | hmem
    · exact absurd hb (by simp [h.methods b hmem])
    · exact absurd hb (by simp [h.integrations b hmem])

theorem Sections.position_method (h : Sections rs ms is) (hk : (rs ++ ms ++ is)[k]? = some b)
    (hb : b.kind = .method) : rs.length ≤ k ∧ k < rs.length + ms.length := by
  by_cases hlt : k < rs.length + ms.length
  · refine ⟨?_, hlt⟩
    by_contra hle
    rw [List.append_assoc, List.getElem?_append_left (Nat.not_le.mp hle)] at hk
    exact absurd hb (by simp [h.resources b (List.mem_of_getElem? hk)])
  · rw [List.getElem?_append_right (by rw [List.length_append]; omega)] at hk
    exact absurd hb (by simp [h.integrations b (List.mem_of_getElem? hk)])

theorem Sections.position_integration (h : Sections rs ms is)
    (hk : (rs ++ ms ++ is)[k]? = some b) (hb : b.kind = .integration) :
    rs.length + ms.length ≤ k := by
  by_contra hle
  rw [List.getElem?_append_left (by rw [List.length_append]; omega)] at hk
  rcases List.mem_append.mp (List.mem_of_getElem? hk) with hmem | hmem
  · exact absurd hb (by simp [h.resources b hmem])
  · exact absurd hb (by simp [h.methods b hmem])

end Sections

section Outline

variable {es : List Endpoint} {p : Segments} {b : Block} {j k : Nat}

theorem sections_outline (es : List Endpoint) :
    Sections (resourceBlocks es) (es.map methodOf) (es.map integrationOf) where
  resources := by simp [resourceBlocks, resourceBlock, Block.kind]
  methods := by simp [methodOf, Block.kind]
  integrations := by simp [integrationOf, Block.kind]

theorem map_name_resourceBlocks (es : List Endpoint) :
    (resourceBlocks es).map Block.name =
      (Path.kept (es.map Endpoint.segments)).map Path.resourceName := by
  rw [resourceBlocks, List.map_map]
  rfl

theorem getElem?_resourceBlocks (h : (resourceBlocks es)[j]? = some b) :
    ∃ p, (Path.kept (es.map Endpoint.segments))[j]? = some p ∧ b = resourceBlock p := by
  rw [resourceBlocks, List.getElem?_map] at h
  obtain ⟨p, hp, rfl⟩ := Option.map_eq_some_iff.mp h
  exact ⟨p, hp, rfl⟩

theorem exists_resource (h : p ∈ Endpoint.parts es) :
    ∃ a ∈ resourceBlocks es, a.address = reference .resource (Path.resourceName p) := by
  obtain ⟨q, hq, hname, -⟩ := Path.exists_kept h
  exact ⟨resourceBlock q, List.mem_map_of_mem hq, congrArg (reference .resource) hname⟩

theorem exists_target {e : Endpoint} (h : Endpoint.Routable es) (he : e ∈ es) :
    ∃ a ∈ resourceBlocks es, a.address = reference .resource e.resourceName :=
  exists_resource (Endpoint.segments_mem_parts he (Endpoint.routable_iff.mp h e he))

theorem parent_resourceBlocks (h : (resourceBlocks es)[j]? = some b) :
    b.attribute? "parent_id" = some rootResourceId ∧ b.attribute? "depends_on" = none ∨
    ∃ i a, i < j ∧ (resourceBlocks es)[i]? = some a ∧ a.name ≠ b.name ∧
      b.attribute? "parent_id" = some (idOf a.address) ∧
      b.attribute? "depends_on" = some (listOf a.address) := by
  obtain ⟨p, hp, rfl⟩ := getElem?_resourceBlocks h
  by_cases hlen : 1 < p.length
  · right
    obtain ⟨q, hq, hname, hlt⟩ := Path.exists_kept_parent (List.mem_of_getElem? hp) hlen
    obtain ⟨i, hi⟩ := List.mem_iff_getElem?.mp hq
    refine ⟨i, resourceBlock q, Path.kept_position_lt hi hp hlt, ?_, ?_, ?_⟩
    · rw [resourceBlocks, List.getElem?_map, hi]
      rfl
    · change Path.resourceName q ≠ Path.resourceName p
      rw [hname]
      exact Path.resourceName_dropLast_ne hlen
    · have haddress : (resourceBlock q).address =
          reference .resource (Path.resourceName p.dropLast) := congrArg (reference .resource) hname
      rw [haddress, resourceBlock, parentOf_of_below hlen]
      exact ⟨rfl, rfl⟩
  · left
    rw [resourceBlock, parentOf_of_top hlen]
    exact ⟨rfl, rfl⟩

theorem backward_resource (hj : (resourceBlocks es)[j]? = some b) {c : Block}
    (hk : (resourceBlocks es)[k]? = some c) (h : Refers b c) : k < j := by
  obtain ⟨p, hp, rfl⟩ := getElem?_resourceBlocks hj
  obtain ⟨q, hq, rfl⟩ := getElem?_resourceBlocks hk
  obtain ⟨x, hx, -, hname⟩ := refers_resource.mp h
  have hlen : 1 < p.length := by
    by_contra hle
    rw [parentOf_of_top hle] at hx
    cases hx
  rw [parentOf_of_below hlen, Option.some.injEq] at hx
  obtain ⟨q', hq', hname', hlt⟩ := Path.exists_kept_parent (List.mem_of_getElem? hp) hlen
  -- The name is kept once, so the part before `p` that has it is the one referred to.
  have heq : q' = q := List.inj_on_of_nodup_map (Path.nodup_names_kept _) hq'
    (List.mem_of_getElem? hq) (hname'.trans (hx.trans hname.symm))
  exact Path.kept_position_lt hq hp (heq ▸ hlt)

theorem backward_outline (h : Edge (outline es) j k) : k < j := by
  obtain ⟨b, c, hj, hk, hbc⟩ := h
  have hs := sections_outline es
  cases b with
  | resource n parent part =>
    obtain ⟨-, -, hc, -⟩ := refers_resource.mp hbc
    exact backward_resource (hs.position_resource hj rfl) (hs.position_resource hk hc) hbc
  | method res m key =>
    have hc := (refers_method.mp hbc).1
    have hle := (hs.position_method hj rfl).1
    obtain ⟨hlt, -⟩ := List.getElem?_eq_some_iff.mp (hs.position_resource hk hc)
    omega
  | integration res m uri =>
    have hle := hs.position_integration hj rfl
    rcases refers_integration.mp hbc with ⟨hc, -⟩ | ⟨hc, -⟩
    · obtain ⟨hlt, -⟩ := List.getElem?_eq_some_iff.mp (hs.position_resource hk hc)
      omega
    · have hlt := (hs.position_method hk hc).2
      omega

theorem resolved_resource {r : String × (String → String)} {v : String}
    (hb : b ∈ resourceBlocks es) (hr : r ∈ Kind.resource.references)
    (hv : b.attribute? r.1 = some v) :
    v = rootResourceId ∨ ∃ a ∈ resourceBlocks es, v = r.2 a.address := by
  obtain ⟨j, hj⟩ := List.mem_iff_getElem?.mp hb
  have hform : r = ("parent_id", idOf) ∨ r = ("depends_on", listOf) := by
    simpa [Kind.references] using hr
  rcases parent_resourceBlocks hj with ⟨hid, hdep⟩ | ⟨i, a, -, hi, -, hid, hdep⟩
  · left
    rcases hform with rfl | rfl
    · exact Option.some.inj (hv.symm.trans hid)
    · exact absurd (hdep.symm.trans hv) (Option.some_ne_none v).symm
  · right
    refine ⟨a, List.mem_of_getElem? hi, ?_⟩
    rcases hform with rfl | rfl
    · exact Option.some.inj (hv.symm.trans hid)
    · exact Option.some.inj (hv.symm.trans hdep)

theorem resolved_method {e : Endpoint} {r : String × (String → String)} {v : String}
    (h : Endpoint.Routable es) (he : e ∈ es) (hr : r ∈ (methodOf e).kind.references)
    (hv : (methodOf e).attribute? r.1 = some v) : ∃ a ∈ resourceBlocks es, v = r.2 a.address := by
  obtain ⟨a, ha, haddress⟩ := exists_target h he
  have hform : r = ("resource_id", idOf) ∨ r = ("depends_on", listOf) := by
    simpa [methodOf, Block.kind, Kind.references] using hr
  refine ⟨a, ha, ?_⟩
  rw [haddress]
  rcases hform with rfl | rfl
  · exact (Option.some.inj hv).symm
  · exact (Option.some.inj hv).symm

theorem resolved_integration {e : Endpoint} {r : String × (String → String)} {v : String}
    (h : Endpoint.Routable es) (he : e ∈ es) (hr : r ∈ (integrationOf e).kind.references)
    (hv : (integrationOf e).attribute? r.1 = some v) :
    ∃ a ∈ resourceBlocks es ++ es.map methodOf, v = r.2 a.address := by
  have hform : r = ("resource_id", idOf) ∨ r = ("http_method", (· ++ ".http_method")) ∨
      r = ("depends_on", listOf) := by
    simpa [integrationOf, Block.kind, Kind.references] using hr
  have hmethod : methodOf e ∈ resourceBlocks es ++ es.map methodOf :=
    List.mem_append_right _ (List.mem_map_of_mem he)
  rcases hform with rfl | rfl | rfl
  · obtain ⟨a, ha, haddress⟩ := exists_target h he
    exact ⟨a, List.mem_append_left _ ha, haddress ▸ (Option.some.inj hv).symm⟩
  · exact ⟨methodOf e, hmethod, (Option.some.inj hv).symm⟩
  · exact ⟨methodOf e, hmethod, (Option.some.inj hv).symm⟩

theorem resolved_outline (h : Endpoint.Routable es) : Resolved (outline es) := by
  have hmem {a : Block} (ha : a ∈ resourceBlocks es ++ es.map methodOf) : a ∈ outline es :=
    List.mem_append_left _ ha
  intro b hb r hr v hv
  rcases List.mem_append.mp hb with hb | hb
  · rcases List.mem_append.mp hb with hb | hb
    · rw [(sections_outline es).resources b hb] at hr
      refine (resolved_resource hb hr hv).imp_right ?_
      rintro ⟨a, ha, hva⟩
      exact ⟨a, hmem (List.mem_append_left _ ha), hva⟩
    · obtain ⟨e, he, rfl⟩ := List.mem_map.mp hb
      obtain ⟨a, ha, hva⟩ := resolved_method h he hr hv
      exact .inr ⟨a, hmem (List.mem_append_left _ ha), hva⟩
  · obtain ⟨e, he, rfl⟩ := List.mem_map.mp hb
    obtain ⟨a, ha, hva⟩ := resolved_integration h he hr hv
    exact .inr ⟨a, hmem ha, hva⟩

theorem closed_outline (h : Endpoint.Routable es) :
    Closed (resourceBlocks es) (es.map methodOf) (es.map integrationOf) where
  toSections := sections_outline es
  nodup_names := by
    rw [map_name_resourceBlocks]
    exact Path.nodup_names_kept _
  parent := parent_resourceBlocks
  method_target b hb := by
    obtain ⟨e, he, rfl⟩ := List.mem_map.mp hb
    obtain ⟨a, ha, haddress⟩ := exists_target h he
    refine ⟨a, ha, ?_⟩
    rw [haddress]
    exact ⟨rfl, rfl⟩
  integration_target b hb := by
    obtain ⟨e, he, rfl⟩ := List.mem_map.mp hb
    obtain ⟨a, ha, haddress⟩ := exists_target h he
    refine ⟨a, ha, ?_⟩
    rw [haddress]
    rfl
  paired := by
    rw [List.forall₂_map_left_iff, List.forall₂_map_right_iff]
    exact List.forall₂_same.mpr fun e _ => ⟨rfl, rfl⟩
  backward := backward_outline

end Outline

theorem not_transGen_edge {bs : List Block} (h : ∀ {j k}, Edge bs j k → k < j) (j : Nat) :
    ¬ Relation.TransGen (Edge bs) j j := by
  intro hcycle
  have hlt {i k : Nat} (hik : Relation.TransGen (Edge bs) i k) : k < i := by
    induction hik with
    | single hedge => exact h hedge
    | tail _ hedge ih => exact Nat.lt_trans (h hedge) ih
  exact Nat.lt_irrefl j (hlt hcycle)

/-- Every generated configuration is closed, with no way from a block back to itself, whether or not
names collide. -/
theorem generate_closed {es : List Endpoint} {text : String} (h : generate es = .ok text) :
    ∃ rs ms is : List Block, blocks es = .ok (rs ++ ms ++ is) ∧
      text = header ++ render (rs ++ ms ++ is) ∧ Closed rs ms is ∧
      Resolved (rs ++ ms ++ is) ∧ ∀ j, ¬ Relation.TransGen (Edge (rs ++ ms ++ is)) j j := by
  obtain ⟨hroutable, rfl⟩ := generate_eq_ok_iff.mp h
  exact ⟨resourceBlocks es, es.map methodOf, es.map integrationOf, blocks_of_routable hroutable,
    rfl, closed_outline hroutable, resolved_outline hroutable, not_transGen_edge backward_outline⟩

theorem generate_closed_shared_name : ∃ text rs ms is,
    generate [⟨"/a/b/x", .get, "https://example.com", true⟩,
      ⟨"/a_b", .post, "https://example.com", false⟩] = .ok text ∧
    text = header ++ render (rs ++ ms ++ is) ∧ Closed rs ms is := by
  have hroutable : Endpoint.Routable [⟨"/a/b/x", .get, "https://example.com", true⟩,
      ⟨"/a_b", .post, "https://example.com", false⟩] :=
    Endpoint.routable_iff.mpr (by decide +kernel)
  have h := generate_eq_ok_iff.mpr ⟨hroutable, rfl⟩
  obtain ⟨rs, ms, is, -, htext, hclosed, -⟩ := generate_closed h
  exact ⟨_, rs, ms, is, h, htext, hclosed⟩

end ApiGateway.Terraform
