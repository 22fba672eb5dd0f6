import ApiGateway.Proofs.Terraform.Failure
import ApiGateway.Proofs.Terraform.Reading
import ApiGateway.Proofs.Terraform.Rearrangement

/-! Where flags and backends go. All that is made of a list of endpoints is made of their segments and
verbs, but for one value in the method block and one in the integration block of each endpoint. -/

namespace ApiGateway

namespace Terraform

/-- The lines of a block but for the value that one of them gives to its attribute. -/
structure Frame where
  before : List String
  width : Nat
  label : String
  after : List String

def Frame.lines (f : Frame) (value : String) : List String :=
  f.before ++ Group.line f.width f.label value :: f.after

/-- The blocks have the lines of the frames, one by one, with these values for one attribute. -/
structure Fills (label : String) (frames : List Frame) (values : List String) (bs : List Block) :
    Prop where
  labels : ∀ f ∈ frames, f.label = label
  length : frames.length = values.length
  lines : bs.map Block.lines = List.zipWith Frame.lines frames values

/-- What a method block says of its flag. -/
def flagWord (required : Bool) : String := if required then "true" else "false"

/-- A method block asks for an API key or not; other blocks have nothing to say of that. -/
def Block.withApiKey (required : Bool) : Block → Block
  | method res m _ => method res m required
  | resource name parent pathPart => resource name parent pathPart
  | integration res m uri => integration res m uri

/-- Two configurations with the same resources, whose methods are alike line by line but for the
value of `api_key_required`, and whose integrations but for the text between the quotes of `uri`.
These are the flags and the backends of the endpoints. -/
structure AlikeButValues (es fs : List Endpoint) (rs ms is ms' is' : List Block) : Prop where
  left : Generates es rs ms is
  right : Generates fs rs ms' is'
  methods : ∃ frames,
    Fills "api_key_required" frames (es.map fun e => flagWord e.apiKeyRequired) ms ∧
    Fills "api_key_required" frames (fs.map fun f => flagWord f.apiKeyRequired) ms'
  integrations : ∃ frames,
    Fills "uri" frames (es.map fun e => quote e.backendUri) is ∧
    Fills "uri" frames (fs.map fun f => quote f.backendUri) is'

section Frames

def methodFrame (resource : String) (m : Method) : Frame where
  before := ["resource " ++ quote Kind.method.text ++ " " ++ quote (methodName resource m) ++
      " \x7b",
    Group.line 13 "rest_api_id" restApiId,
    Group.line 13 "resource_id" (idOf (reference .resource resource)),
    Group.line 13 "http_method" (quote m.verb),
    Group.line 13 "authorization" (quote "NONE")]
  width := 13
  label := "api_key_required"
  after := [Group.line 13 "depends_on" (listOf (reference .resource resource)), "\x7d", "", ""]

def integrationFrame (resource : String) (m : Method) : Frame where
  before := ["resource " ++ quote Kind.integration.text ++ " " ++
      quote (integrationName resource m) ++ " \x7b",
    Group.line 11 "rest_api_id" restApiId,
    Group.line 11 "resource_id" (idOf (reference .resource resource)),
    Group.line 11 "http_method" (reference .method (methodName resource m) ++ ".http_method"),
    "",
    Group.line 23 "integration_http_method" (quote m.verb),
    Group.line 23 "type" (quote "HTTP_PROXY")]
  width := 23
  label := "uri"
  after := [Group.line 23 "depends_on" (listOf (reference .method (methodName resource m))),
    "\x7d", "", ""]

theorem lines_method (resource : String) (m : Method) (required : Bool) :
    (Block.method resource m required).lines =
      (methodFrame resource m).lines (flagWord required) := rfl

theorem lines_integration (resource : String) (m : Method) (uri : String) :
    (Block.integration resource m uri).lines =
      (integrationFrame resource m).lines (quote uri) := rfl

/-- Blocks that are made of endpoints one by one fill the frames that are made of them. -/
theorem fills_map {label : String} {block : Endpoint → Block} {frame : Endpoint → Frame}
    {value : Endpoint → String} (hlabel : ∀ e, (frame e).label = label)
    (hlines : ∀ e, (block e).lines = (frame e).lines (value e)) (es : List Endpoint) :
    Fills label (es.map frame) (es.map value) (es.map block) where
  labels f hf := by
    obtain ⟨e, -, rfl⟩ := List.mem_map.mp hf
    exact hlabel e
  length := by rw [List.length_map, List.length_map]
  lines := by
    rw [List.map_map, List.zipWith_map, List.zipWith_self]
    exact List.map_congr_left fun e _ => hlines e

theorem fills_methods (es : List Endpoint) :
    Fills "api_key_required" (es.map fun e => methodFrame e.resourceName e.method)
      (es.map fun e => flagWord e.apiKeyRequired) (es.map methodOf) := by
  refine fills_map (fun e => ?_) (fun e => ?_) es
  · rfl
  · exact lines_method e.resourceName e.method e.apiKeyRequired

theorem fills_integrations (es : List Endpoint) :
    Fills "uri" (es.map fun e => integrationFrame e.resourceName e.method)
      (es.map fun e => quote e.backendUri) (es.map integrationOf) := by
  refine fills_map (fun e => ?_) (fun e => ?_) es
  · rfl
  · exact lines_integration e.resourceName e.method e.backendUri

end Frames

section Routes

variable {es fs : List Endpoint} {e f : Endpoint}

theorem segments_eq_of_route (h : Lint.route e = Lint.route f) : e.segments = f.segments := by
  have hsegments : Path.segments e.path = Path.segments f.path := congrArg Prod.fst h
  cases he : Path.segments e.path with
  | ok ss =>
    rw [Endpoint.segments_of_eq_ok he, Endpoint.segments_of_eq_ok (hsegments ▸ he)]
  | error err =>
    have hnil : e.segments = [] := (Path.segments_eq_error_iff.mp he).1
    have hnil' : f.segments = [] := (Path.segments_eq_error_iff.mp (hsegments ▸ he)).1
    rw [hnil, hnil']

/-- What is made of segments and verbs is the same for endpoints on the same routes. -/
theorem map_eq_of_route {β : Type} {g : Endpoint → β}
    (hg : ∀ e f, Lint.route e = Lint.route f → g e = g f)
    (h : es.map Lint.route = fs.map Lint.route) : es.map g = fs.map g := by
  rw [← List.forall₂_eq_eq_eq, List.forall₂_map_left_iff, List.forall₂_map_right_iff] at h
  exact map_eq_of_forall₂ hg h

variable (h : es.map Lint.route = fs.map Lint.route)
include h

theorem map_segments_eq : es.map Endpoint.segments = fs.map Endpoint.segments :=
  map_eq_of_route (fun _ _ => segments_eq_of_route) h

theorem build_eq_of_route : ResourceTree.build es = ResourceTree.build fs := by
  have hmapM (es : List Endpoint) : es.mapM (fun e => Path.segments e.path) =
      (es.map Lint.route).mapM Prod.fst := by
    rw [List.mapM_map]
    rfl
  rw [ResourceTree.build_eq, ResourceTree.build_eq, hmapM, hmapM, h]

theorem generate_error_iff_of_route (err : GenerationError) :
    generate es = .error err ↔ generate fs = .error err := by
  rw [generate_eq_error_iff, generate_eq_error_iff, build_eq_of_route h]

theorem routable_iff_of_route : Endpoint.Routable es ↔ Endpoint.Routable fs := by
  rw [← ResourceTree.exists_build_iff, ← ResourceTree.exists_build_iff, build_eq_of_route h]

theorem resourceBlocks_eq_of_route : resourceBlocks es = resourceBlocks fs := by
  rw [resourceBlocks, resourceBlocks, map_segments_eq h]

/-- The frames of a block are made of segments and verb. -/
theorem map_frame_eq (frame : String → Method → Frame) :
    (es.map fun e => frame e.resourceName e.method) =
      fs.map fun f => frame f.resourceName f.method := by
  refine map_eq_of_route (fun e f hroute => ?_) h
  have hmethod : e.method = f.method := congrArg Prod.snd hroute
  rw [Endpoint.resourceName, Endpoint.resourceName, segments_eq_of_route hroute, hmethod]

theorem alikeButValues (hes : Endpoint.Routable es) :
    AlikeButValues es fs (resourceBlocks es) (es.map methodOf) (es.map integrationOf)
      (fs.map methodOf) (fs.map integrationOf) where
  left := generates_outline hes
  right := by
    rw [resourceBlocks_eq_of_route h]
    exact generates_outline ((routable_iff_of_route h).mp hes)
  methods := by
    refine ⟨_, fills_methods es, ?_⟩
    rw [map_frame_eq h methodFrame]
    exact fills_methods fs
  integrations := by
    refine ⟨_, fills_integrations es, ?_⟩
    rw [map_frame_eq h integrationFrame]
    exact fills_integrations fs

end Routes

section Override

variable {es : List Endpoint} {rs ms is : List Block}

theorem Generates.routable (h : Generates es rs ms is) : Endpoint.Routable es :=
  (generate_eq_ok_iff.mp h.text).1

/-- There is one configuration for a list of endpoints, and it comes apart into its sections. -/
theorem Generates.eq_outline (h : Generates es rs ms is) :
    rs = resourceBlocks es ∧ ms = es.map methodOf ∧ is = es.map integrationOf := by
  have houtline := generates_outline h.routable
  have hblocks := Except.ok.inj (h.blocks.symm.trans houtline.blocks)
  exact h.toSections.eq houtline.toSections hblocks

theorem Generates.overrideApiKey (h : Generates es rs ms is) (required : Bool) :
    Generates (Endpoint.overrideApiKey required es) rs (ms.map (Block.withApiKey required)) is := by
  obtain ⟨rfl, rfl, rfl⟩ := h.eq_outline
  have hroute := Lint.map_route_overrideApiKey required es
  have hgenerates := generates_outline ((routable_iff_of_route hroute).mpr h.routable)
  rw [resourceBlocks_eq_of_route hroute] at hgenerates
  have hmethods : (Endpoint.overrideApiKey required es).map methodOf =
      (es.map methodOf).map (Block.withApiKey required) := by
    rw [Endpoint.overrideApiKey, List.map_map, List.map_map]
    rfl
  have hintegrations : (Endpoint.overrideApiKey required es).map integrationOf =
      es.map integrationOf := by
    rw [Endpoint.overrideApiKey, List.map_map]
    rfl
  rwa [hmethods, hintegrations] at hgenerates

end Override

/-- Lists of endpoints with the same routes have the same report, the same tree and the same error or
none, whatever their flags and backends are; and these reach nothing of the configurations but the
values in their own lines. To override the flags is to set them in all method blocks. -/
theorem values_confined (es fs : List Endpoint) (h : es.map Lint.route = fs.map Lint.route) :
    Lint.problems es = Lint.problems fs ∧
    ResourceTree.build es = ResourceTree.build fs ∧
    (∀ err, generate es = .error err ↔ generate fs = .error err) ∧
    (∀ text, generate es = .ok text →
      ∃ rs ms is ms' is', AlikeButValues es fs rs ms is ms' is') ∧
    ∀ required,
      (∀ err, generate (Endpoint.overrideApiKey required es) = .error err ↔
        generate es = .error err) ∧
      ∀ rs ms is, Generates es rs ms is → Generates (Endpoint.overrideApiKey required es) rs
        (ms.map (Block.withApiKey required)) is := by
  refine ⟨Lint.problems_congr h, build_eq_of_route h, generate_error_iff_of_route h, ?_, ?_⟩
  · intro text htext
    exact ⟨_, _, _, _, _, alikeButValues h (generate_eq_ok_iff.mp htext).1⟩
  · intro required
    exact ⟨generate_error_iff_of_route (Lint.map_route_overrideApiKey required es),
      fun rs ms is hgenerates => hgenerates.overrideApiKey required⟩

theorem values_confined_two_backends :
    [⟨"/a/b", .get, "https://example.com", false⟩, ⟨"/a_b", .post, "x", true⟩].map Lint.route =
      [⟨"a//b/", .get, "https://example.org/\" \n", true⟩,
        (⟨"/a_b/", .post, "x", true⟩ : Endpoint)].map Lint.route ∧
    ∃ rs ms is ms' is', AlikeButValues
      [⟨"/a/b", .get, "https://example.com", false⟩, ⟨"/a_b", .post, "x", true⟩]
      [⟨"a//b/", .get, "https://example.org/\" \n", true⟩, ⟨"/a_b/", .post, "x", true⟩]
      rs ms is ms' is' := by
  have hroute : [⟨"/a/b", .get, "https://example.com", false⟩,
      ⟨"/a_b", .post, "x", true⟩].map Lint.route =
        [⟨"a//b/", .get, "https://example.org/\" \n", true⟩,
          (⟨"/a_b/", .post, "x", true⟩ : Endpoint)].map Lint.route := by decide +kernel
  have hroutable : Endpoint.Routable [⟨"/a/b", .get, "https://example.com", false⟩,
      ⟨"/a_b", .post, "x", true⟩] := Endpoint.routable_iff.mpr (by decide +kernel)
  obtain ⟨-, -, -, hsuccess, -⟩ := values_confined _ _ hroute
  exact ⟨hroute, hsuccess _ (generate_eq_ok_iff.mpr ⟨hroutable, rfl⟩)⟩

end Terraform
end ApiGateway
