import ApiGateway.Proofs.Terraform.Outline

/-! A configuration written without a tree: one text for every kept leading part, then one for every
endpoint and its method, then one for every endpoint and its integration. -/

namespace ApiGateway.Terraform

def resourceText (p : Segments) : String :=
  Text.joinWith "\n" ([
    "resource \"aws_api_gateway_resource\" \"" ++ Path.resourceName p ++ "\" \x7b",
    "  rest_api_id = aws_api_gateway_rest_api.this.id",
    "  parent_id   = " ++ (if p.length = 1 then "aws_api_gateway_rest_api.this.root_resource_id"
      else "aws_api_gateway_resource." ++ Path.resourceName p.dropLast ++ ".id"),
    "  path_part   = " ++ ("\"" ++ p.getLastD "" ++ "\"")] ++
    (if 1 < p.length then
      ["  depends_on  = " ++ ("[" ++ ("aws_api_gateway_resource." ++
        Path.resourceName p.dropLast) ++ "]")]
    else []) ++
    ["\x7d", "", ""])

def methodText (e : Endpoint) : String :=
  Text.joinWith "\n" [
    "resource \"aws_api_gateway_method\" \"" ++ e.methodName ++ "\" \x7b",
    "  rest_api_id   = aws_api_gateway_rest_api.this.id",
    "  resource_id   = " ++ ("aws_api_gateway_resource." ++ e.resourceName ++ ".id"),
    "  http_method   = " ++ ("\"" ++ e.method.verb ++ "\""),
    "  authorization = \"NONE\"",
    "  api_key_required = " ++ (if e.apiKeyRequired then "true" else "false"),
    "  depends_on    = " ++ ("[" ++ ("aws_api_gateway_resource." ++ e.resourceName) ++ "]"),
    "\x7d", "", ""]

/-- The integration of an endpoint under a given name. -/
def integrationText (name : String) (e : Endpoint) : String :=
  Text.joinWith "\n" [
    "resource \"aws_api_gateway_integration\" \"" ++ name ++ "\" \x7b",
    "  rest_api_id = aws_api_gateway_rest_api.this.id",
    "  resource_id = " ++ ("aws_api_gateway_resource." ++ e.resourceName ++ ".id"),
    "  http_method = " ++ ("aws_api_gateway_method." ++ e.methodName ++ ".http_method"),
    "",
    "  integration_http_method = " ++ ("\"" ++ e.method.verb ++ "\""),
    "  type                    = \"HTTP_PROXY\"",
    "  uri                     = " ++ ("\"" ++ e.backendUri ++ "\""),
    "  depends_on              = " ++ ("[" ++ ("aws_api_gateway_method." ++ e.methodName) ++ "]"),
    "\x7d", "", ""]

/-- The configuration of a list of endpoints, with the names of its integrations left open. -/
def treeFree (integrationName : Endpoint → String) (es : List Endpoint) : String :=
  header ++ Text.joinWith "" ((Path.kept (es.map Endpoint.segments)).map resourceText ++
    es.map methodText ++ es.map fun e => integrationText (integrationName e) e)

section Lines

theorem line_eq {width : Nat} {label start : String} (h : Group.line width label "" = start)
    (value : String) : Group.line width label value = start ++ value := by
  subst h
  simp [Group.line, String.append_assoc]

theorem opening_eq {k : Kind} {start : String} (h : "resource \"" ++ k.text ++ "\" \"" = start)
    (name : String) :
    "resource " ++ quote k.text ++ " " ++ quote name ++ " \x7b" = start ++ name ++ "\" \x7b" := by
  subst h
  apply String.toList_injective
  simp [quote]

end Lines

section Render

theorem render_methodOf (e : Endpoint) : (methodOf e).render = methodText e := by
  refine congrArg (Text.joinWith "\n") ?_
  simp only [methodOf, Block.lines, Block.groups, Group.lines, List.map_cons, List.map_nil,
    List.intercalate_singleton, Block.kind, Block.name, List.cons_append, List.nil_append,
    List.cons.injEq, and_true]
  exact ⟨opening_eq (by decide) _, by decide, line_eq (by decide) _, line_eq (by decide) _,
    by decide, line_eq (by decide) _, line_eq (by decide) _⟩

theorem render_integrationOf (e : Endpoint) :
    (integrationOf e).render = integrationText (e.methodName ++ "_integration") e := by
  refine congrArg (Text.joinWith "\n") ?_
  simp only [integrationOf, Block.lines, Block.groups, Group.lines, List.map_cons, List.map_nil,
    List.intercalate_cons_cons, List.intercalate_singleton, Block.kind, Block.name,
    List.cons_append, List.nil_append, List.cons.injEq, and_true, true_and]
  exact ⟨opening_eq (by decide) _, by decide, line_eq (by decide) _, line_eq (by decide) _,
    line_eq (by decide) _, by decide, line_eq (by decide) _, line_eq (by decide) _⟩

theorem render_resourceBlock {p : Segments} (h : p ≠ []) :
    (resourceBlock p).render = resourceText p := by
  refine congrArg (Text.joinWith "\n") ?_
  by_cases hlen : 1 < p.length
  · have hone : p.length ≠ 1 := by omega
    simp only [resourceBlock, parentOf_of_below hlen, Block.lines, Block.groups, Group.lines,
      Option.map_some, Option.toList_some, Option.elim_some, List.map_cons, List.map_nil,
      List.intercalate_singleton, Block.kind, Block.name, List.cons_append, List.nil_append,
      if_neg hone, if_pos hlen, List.cons.injEq, and_true]
    exact ⟨opening_eq (by decide) _, by decide, line_eq (by decide) _, line_eq (by decide) _,
      line_eq (by decide) _⟩
  · have hone : p.length = 1 := by
      have := List.length_pos_iff.mpr h
      omega
    simp only [resourceBlock, parentOf_of_top hlen, Block.lines, Block.groups, Group.lines,
      Option.map_none, Option.toList_none, Option.elim_none, List.map_cons, List.map_nil,
      List.intercalate_singleton, Block.kind, Block.name, List.cons_append, List.nil_append,
      if_pos hone, if_neg hlen, List.cons.injEq, and_true]
    exact ⟨opening_eq (by decide) _, by decide, line_eq (by decide) _, line_eq (by decide) _⟩

theorem render_outline (es : List Endpoint) : header ++ render (outline es) =
    treeFree (fun e => e.methodName ++ "_integration") es := by
  have hresources : (resourceBlocks es).map Block.render =
      (Path.kept (es.map Endpoint.segments)).map resourceText := by
    rw [resourceBlocks, List.map_map]
    exact List.map_congr_left fun p hp =>
      render_resourceBlock (Path.ne_nil_of_mem_parts (Path.mem_parts_of_mem_kept hp))
  rw [render, outline, List.map_append, List.map_append, hresources, List.map_map, List.map_map,
    treeFree]
  simp only [Function.comp_def, render_methodOf, render_integrationOf]

end Render

/-- Generation writes what can be written without a tree. -/
theorem generate_eq_treeFree {es : List Endpoint}
    (h : ∀ e ∈ es, ∃ ss, Path.segments e.path = .ok ss) :
    generate es = .ok (treeFree (fun e => e.methodName ++ "_integration") es) :=
  generate_eq_ok_iff.mpr ⟨h, (render_outline es).symm⟩

theorem generate_eq_treeFree_shared_name :
    generate [⟨"/a/b", .get, "https://example.com", true⟩,
        ⟨"/a_b", .post, "https://example.com", false⟩] =
      .ok (treeFree (fun e => e.methodName ++ "_integration")
        [⟨"/a/b", .get, "https://example.com", true⟩,
          ⟨"/a_b", .post, "https://example.com", false⟩]) :=
  generate_eq_treeFree (Endpoint.routable_iff.mpr (by decide +kernel))

/-- The integrations are not named like the methods. -/
theorem generate_ne_treeFree_methodName :
    generate [⟨"/x", .get, "https://example.com", false⟩] ≠
      .ok (treeFree Endpoint.methodName [⟨"/x", .get, "https://example.com", false⟩]) := by
  decide +kernel

end ApiGateway.Terraform
