import ApiGateway.Proofs.CommandLine.Run
import ApiGateway.Proofs.Lint.Clean

/-! Strict generation is the linter and then generation: it complains like the one, and what it
generates is what the other generates. Once there is nothing to report, generation cannot fail. -/

namespace ApiGateway

namespace Endpoint

/-- The endpoints as generation takes them, with an API key for all if one is asked for. -/
def keyed (requireApiKey : Bool) (es : List Endpoint) : List Endpoint :=
  if requireApiKey then overrideApiKey true es else es

theorem problems_keyed (requireApiKey : Bool) (es : List Endpoint) :
    Lint.problems (keyed requireApiKey es) = Lint.problems es := by
  unfold keyed
  split
  · exact Lint.problems_overrideApiKey true es
  · rfl

theorem routable_keyed (requireApiKey : Bool) (es : List Endpoint) :
    Routable (keyed requireApiKey es) ↔ Routable es := by
  unfold keyed
  split
  · simp [Routable, overrideApiKey, withApiKey]
  · rfl

end Endpoint

namespace CommandLine

section Made

variable {environment file out : Option String} {files : Files} {key : Bool} {format : TreeFormat}

/-- The endpoints of the file that a command names. -/
def loaded (environment file : Option String) (files : Files) : Except LoadError (List Endpoint) :=
  Endpoint.load (Command.endpointsFile environment file)
    (files.readText? (Command.endpointsFile environment file))

theorem made_generate (environment file out : Option String) (files : Files) (key : Bool) :
    (Command.generate file out key false).made environment files = (do
      let es ← orFail LoadError.message (loaded environment file files)
      orFail Terraform.GenerationError.message (Terraform.generate (Endpoint.keyed key es))) := by
  change (do
    let es ← orFail LoadError.message (loaded environment file files)
    if ([] : List Lint.Problem) ≠ [] then .error (Command.lintFailure [])
    else orFail Terraform.GenerationError.message (Terraform.generate (Endpoint.keyed key es))) = _
  simp

theorem made_lint (environment file : Option String) (files : Files) :
    (Command.lint file).made environment files = (do
      let es ← orFail LoadError.message (loaded environment file files)
      if Lint.problems es ≠ [] then .error (Command.lintFailure (Lint.problems es))
      else .ok "Endpoint lint passed\n") := rfl

theorem made_tree (environment file : Option String) (files : Files) (format : TreeFormat) :
    (Command.tree file format).made environment files = (do
      let es ← orFail LoadError.message (loaded environment file files)
      let t ← orFail EmptyPath.message (ResourceTree.build es)
      match format with
      | .text => .ok t.listing
      | .json => .ok (t.toJson ++ "\n")) := rfl

/-- To generate strictly is to lint first. An API key for all makes no difference to the linter. -/
theorem made_strict (environment file out : Option String) (files : Files) (key : Bool) :
    (Command.generate file out key true).made environment files = (do
      let _ ← (Command.lint file).made environment files
      (Command.generate file out key false).made environment files) := by
  rw [made_generate, made_lint]
  change (do
    let es ← orFail LoadError.message (loaded environment file files)
    if Lint.problems (Endpoint.keyed key es) ≠ [] then
      .error (Command.lintFailure (Lint.problems (Endpoint.keyed key es)))
    else orFail Terraform.GenerationError.message (Terraform.generate (Endpoint.keyed key es))) = _
  cases loaded environment file files with
  | error e => rfl
  | ok es =>
    simp only [orFail, bind, Except.bind, Endpoint.problems_keyed]
    split <;> rfl

theorem exists_made_generate_iff :
    (∃ text, (Command.generate file out key false).made environment files = .ok text) ↔
      ∃ es, loaded environment file files = .ok es ∧ Endpoint.Routable es := by
  rw [made_generate]
  cases loaded environment file files with
  | error e => simp [orFail, bind, Except.bind]
  | ok es =>
    simp only [Except.ok.injEq, exists_eq_left']
    rw [← Endpoint.routable_keyed key es, ← Terraform.exists_generate_iff]
    cases hgenerate : Terraform.generate (Endpoint.keyed key es) <;>
      simp [orFail, bind, Except.bind, hgenerate]

theorem exists_made_tree_iff :
    (∃ text, (Command.tree file format).made environment files = .ok text) ↔
      ∃ es, loaded environment file files = .ok es ∧ Endpoint.Routable es := by
  rw [made_tree]
  cases loaded environment file files with
  | error e => simp [orFail, bind, Except.bind]
  | ok es =>
    simp only [Except.ok.injEq, exists_eq_left', ← ResourceTree.exists_build_iff]
    cases hbuild : ResourceTree.build es <;> cases format <;>
      simp [orFail, bind, Except.bind, hbuild]

theorem exists_made_lint_iff :
    (∃ text, (Command.lint file).made environment files = .ok text) ↔
      ∃ es, loaded environment file files = .ok es ∧ Lint.problems es = [] := by
  rw [made_lint]
  cases loaded environment file files with
  | error e => simp [orFail, bind, Except.bind]
  | ok es => by_cases h : Lint.problems es = [] <;> simp [orFail, bind, Except.bind, h]

end Made

theorem code_shown_eq_zero_iff {made : Except Failure String} :
    (Outcome.shown made).code = 0 ↔ ∃ text, made = .ok text := by
  cases made <;> simp [Outcome.shown, Outcome.success, Outcome.failure]

section Strict

variable {environment file : Option String} {files : Files} {key : Bool} {format : TreeFormat}
  {strict lint plain tree : List String}

/-- Strict generation makes what the linter lets generation make, or fails as the linter does. -/
theorem made_strict_cases (environment file : Option String) (files : Files) (key : Bool) :
    (∃ text made, (Command.lint file).made environment files = .ok text ∧
      (Command.generate file none key false).made environment files = .ok made ∧
      (Command.generate file none key true).made environment files = .ok made) ∨
    ∃ f, (Command.lint file).made environment files = .error f ∧
      (Command.generate file none key true).made environment files = .error f := by
  rw [made_strict]
  cases hlint : (Command.lint file).made environment files with
  | error f => exact .inr ⟨f, rfl, rfl⟩
  | ok text =>
    -- A clean report leaves no path without segments, which is all that generation can fail on.
    left
    obtain ⟨es, hes, hclean⟩ := exists_made_lint_iff.mp ⟨text, hlint⟩
    have hroutable := (Lint.problems_eq_nil_iff.mp hclean).1
    obtain ⟨made, hmade⟩ := exists_made_generate_iff.mpr ⟨es, hes, hroutable⟩
    exact ⟨text, made, rfl, hmade, hmade⟩

theorem shown_strict (environment file : Option String) (files : Files) (key : Bool) :
    let strict := Outcome.shown ((Command.generate file none key true).made environment files)
    let lint := Outcome.shown ((Command.lint file).made environment files)
    strict.code = lint.code ∧ strict.stderr = lint.stderr := by
  obtain ⟨text, made, hok, -, hmade⟩ | ⟨f, hf, hmade⟩ :=
    made_strict_cases environment file files key
  · rw [hok, hmade]
    exact ⟨rfl, rfl⟩
  · rw [hf, hmade]
    exact ⟨rfl, rfl⟩

theorem made_strict_of_clean {es : List Endpoint} (hes : loaded environment file files = .ok es)
    (hclean : Lint.problems (Endpoint.keyed key es) = []) :
    ∃ text, Terraform.generate (Endpoint.keyed key es) = .ok text ∧
      (Command.generate file none key true).made environment files = .ok text := by
  obtain ⟨text, hgenerate⟩ :=
    Terraform.exists_generate_iff.mpr (Lint.problems_eq_nil_iff.mp hclean).1
  rw [Endpoint.problems_keyed] at hclean
  refine ⟨text, hgenerate, ?_⟩
  rw [made_strict, made_lint, made_generate, hes]
  simp [orFail, hclean, hgenerate, bind, Except.bind]

/-- Strict generation and the linter agree on every set of files, and strict generation gives
nothing that generation without it would not. -/
theorem strict_agrees_with_lint
    (hstrict : Request.ofArguments strict = .run (.generate file none key true))
    (hlint : Request.ofArguments lint = .run (.lint file))
    (hplain : Request.ofArguments plain = .run (.generate file none key false))
    (htree : Request.ofArguments tree = .run (.tree file format))
    (environment : Option String) (files : Files) :
    (run strict environment files).1.code = (run lint environment files).1.code ∧
    (run strict environment files).1.stderr = (run lint environment files).1.stderr ∧
    (∀ es, loaded environment file files = .ok es → Lint.problems (Endpoint.keyed key es) = [] →
      ∃ text, Terraform.generate (Endpoint.keyed key es) = .ok text ∧
        run strict environment files = (.success text, files)) ∧
    ((run strict environment files).1.code = 0 →
      run strict environment files = run plain environment files) ∧
    ((run plain environment files).1.code = 0 ↔ (run tree environment files).1.code = 0) := by
  have hstrict := run_of_printing hstrict rfl environment files
  have hlint := run_of_printing hlint rfl environment files
  have hplain := run_of_printing hplain rfl environment files
  have htree := run_of_printing htree rfl environment files
  have hshown := shown_strict environment file files key
  refine ⟨?_, ?_, fun es hes hclean => ?_, fun hcode => ?_, ?_⟩
  · rw [hstrict, hlint]
    exact hshown.1
  · rw [hstrict, hlint]
    exact hshown.2
  · obtain ⟨text, hgenerate, hmade⟩ := made_strict_of_clean hes hclean
    exact ⟨text, hgenerate, by rw [hstrict, hmade]; rfl⟩
  · rw [hstrict] at hcode
    obtain ⟨-, made, -, hplain', hmade⟩ | ⟨f, -, hmade⟩ :=
      made_strict_cases environment file files key
    · rw [hstrict, hplain, hplain', hmade]
    · rw [hmade] at hcode
      exact absurd hcode Nat.one_ne_zero
  · rw [hplain, htree, code_shown_eq_zero_iff, code_shown_eq_zero_iff, exists_made_generate_iff,
      exists_made_tree_iff]

theorem strict_agrees_with_lint_one_route :
    (run ["lint", "--file=a.toml"] none .oneRoute).1 = .success "Endpoint lint passed\n" ∧
    run ["generate", "--strict", "--require-api-key", "--file", "a.toml"] none .oneRoute =
      run ["generate", "--file", "a.toml", "--require-api-key"] none .oneRoute ∧
    (run ["tree", "--format=json", "--file", "a.toml"] none .oneRoute).1.code = 0 := by
  have hpassed : (run ["lint", "--file=a.toml"] none .oneRoute).1 =
      .success "Endpoint lint passed\n" := by decide +kernel
  obtain ⟨hcode, -, -, hsame, htree⟩ := strict_agrees_with_lint
    (show Request.ofArguments ["generate", "--strict", "--require-api-key", "--file", "a.toml"] =
      .run (.generate (some "a.toml") none true true) by decide +kernel)
    (show Request.ofArguments ["lint", "--file=a.toml"] = .run (.lint (some "a.toml")) by
      decide +kernel)
    (show Request.ofArguments ["generate", "--file", "a.toml", "--require-api-key"] =
      .run (.generate (some "a.toml") none true false) by decide +kernel)
    (show Request.ofArguments ["tree", "--format=json", "--file", "a.toml"] =
      .run (.tree (some "a.toml") .json) by decide +kernel) none .oneRoute
  rw [hpassed] at hcode
  have hruns := hsame hcode
  exact ⟨hpassed, hruns, htree.mp (hruns ▸ hcode)⟩

end Strict

end CommandLine
end ApiGateway
