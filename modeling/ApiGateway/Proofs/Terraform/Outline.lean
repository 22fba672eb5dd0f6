import ApiGateway.Terraform.Configuration
import ApiGateway.Proofs.Terraform.Emission

/-! The blocks of a configuration, read off the paths of the endpoints without a tree. Generation
gives these blocks exactly when every path has a segment. -/

namespace ApiGateway

/-- The name of the method block of an endpoint. -/
def Endpoint.methodName (e : Endpoint) : String := Terraform.methodName e.resourceName e.method

namespace Terraform

def resourceBlocks (es : List Endpoint) : List Block :=
  (Path.kept (es.map Endpoint.segments)).map resourceBlock

def methodOf (e : Endpoint) : Block := .method e.resourceName e.method e.apiKeyRequired

def integrationOf (e : Endpoint) : Block := .integration e.resourceName e.method e.backendUri

def outline (es : List Endpoint) : List Block :=
  resourceBlocks es ++ es.map methodOf ++ es.map integrationOf

variable {es : List Endpoint}

theorem emit_of_routable (es : List Endpoint) :
    ∃ known, emit (.ofLists (es.map Endpoint.segments)) ∅ = .ok (resourceBlocks es, known) := by
  have h := emit_ofLists (Endpoint.forall_mem_slashFree es) ∅
  have hnone (p : Segments) : Path.resourceName p ∉ (∅ : Emitted) := Std.ExtTreeSet.not_mem_empty
  rw [List.filter_eq_self.mpr fun p _ => decide_eq_true (hnone p)] at h
  exact ⟨_, h⟩

theorem methodBlocks_of_routable (h : Endpoint.Routable es) :
    methodBlocks es = .ok (es.map methodOf) := by
  refine Endpoint.mapM_eq_ok fun e he => ?_
  rw [methodBlock, h.segments_eq_ok he]
  rfl

theorem integrationBlocks_of_routable (h : Endpoint.Routable es) :
    integrationBlocks es = .ok (es.map integrationOf) := by
  refine Endpoint.mapM_eq_ok fun e he => ?_
  rw [integrationBlock, h.segments_eq_ok he]
  rfl

theorem blocks_of_routable (h : Endpoint.Routable es) : blocks es = .ok (outline es) := by
  obtain ⟨known, hemit⟩ := emit_of_routable es
  rw [blocks, ResourceTree.build_of_routable h, methodBlocks_of_routable h,
    integrationBlocks_of_routable h]
  simp only [Except.mapError, bind, Except.bind, hemit]
  rfl

theorem blocks_eq_ok_iff {bs : List Block} :
    blocks es = .ok bs ↔ Endpoint.Routable es ∧ bs = outline es := by
  constructor
  · intro h
    have hroutable : Endpoint.Routable es := by
      cases hbuild : ResourceTree.build es with
      | error err => simp [blocks, hbuild, Except.mapError, bind, Except.bind] at h
      | ok t => exact ResourceTree.routable_of_build_eq_ok hbuild
    rw [blocks_of_routable hroutable, Except.ok.injEq] at h
    exact ⟨hroutable, h.symm⟩
  · rintro ⟨h, rfl⟩
    exact blocks_of_routable h

theorem generate_eq_ok_iff {text : String} :
    generate es = .ok text ↔ Endpoint.Routable es ∧ text = header ++ render (outline es) := by
  unfold generate
  cases hblocks : blocks es with
  | error err =>
    have hnot : ¬ Endpoint.Routable es := fun h => by simp [blocks_of_routable h] at hblocks
    simp [hnot]
  | ok bs =>
    obtain ⟨h, rfl⟩ := blocks_eq_ok_iff.mp hblocks
    simp [h, eq_comm]

theorem exists_generate_iff : (∃ text, generate es = .ok text) ↔ Endpoint.Routable es := by
  simp [generate_eq_ok_iff]

end Terraform
end ApiGateway
