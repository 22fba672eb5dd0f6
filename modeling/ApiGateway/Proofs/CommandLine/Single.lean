import ApiGateway.Proofs.CommandLine.Strict
import ApiGateway.Proofs.Endpoint.Validation

/-! The command for one route. It does what generation does with an endpoints file of that route,
and where there is nothing to trim and nothing to refuse, what generation does with the route
itself. -/

namespace ApiGateway

/-- Two commands that make the same of the files, and have the same file to write it to, run
alike. -/
theorem CommandLine.run_congr {args args' : List String} {environment environment' : Option String}
    {files : Files} {c d : Command} (hc : Request.ofArguments args = .run c)
    (hd : Request.ofArguments args' = .run d)
    (hmade : c.made environment files = d.made environment' files) (hout : c.out? = d.out?) :
    run args environment files = run args' environment' files := by
  rw [run_eq hc, run_eq hd, runCommand_eq, runCommand_eq, hmade, hout]

/-- A row that is kept, and has nothing to trim, is the endpoint itself. -/
theorem Row.validate_row {e : Endpoint} (hpath : Text.Trims e.path e.path)
    (huri : Text.Trims e.backendUri e.backendUri) (hfilled : ¬ e.row.IsBlank)
    (habsolute : Uri.isAbsolute e.backendUri = true) : validate [e.row] = .ok [e] := by
  have hrows : filled [e.row] = [e.row] :=
    List.filter_eq_self.mpr (List.forall_mem_singleton.mpr (decide_eq_true hfilled))
  have htrimmed : e = e.row.endpoint := trims_iff.mp ⟨hpath, rfl, huri, rfl⟩
  rw [validate_eq_validateBy, validateBy_eq_ok_iff, hrows]
  refine ⟨List.cons_ne_nil _ _, ?_, ?_⟩
  · rw [List.forall_mem_singleton]
    rintro ⟨uri, huri', hrefused⟩
    obtain rfl : uri = e.backendUri := (Text.trims_iff.mp huri').trans (Text.trims_iff.mp huri).symm
    rw [habsolute] at hrefused
    cases hrefused
  · rw [List.map_singleton, ← htrimmed]

namespace CommandLine

section Single

variable {environment : Option String} {files : Files} {path uri file text : String} {m : Method}
  {key : Bool} {out : Option String} {r : Row} {e : Endpoint}

/-- What is generated for a single row. -/
def madeOfRow (r : Row) : Except Failure String := do
  let es ← orFail RowsError.message (Row.validate [r])
  orFail Terraform.GenerationError.message (Terraform.generate es)

theorem made_single (environment out : Option String) (files : Files) (h : ¬ r.IsBlank) :
    (Command.single r.path r.method r.backendUri r.apiKeyRequired out).made environment files =
      madeOfRow r := by
  obtain ⟨hpath, huri⟩ := not_or.mp h
  rw [Text.blank_iff] at hpath huri
  change (if Text.trim r.path = "" then .error ⟨[], "Please enter an endpoint path"⟩
    else if Text.trim r.backendUri = "" then .error ⟨[], "Please enter a backend URI"⟩
    else madeOfRow r) = madeOfRow r
  rw [if_neg hpath, if_neg huri]

theorem made_generate_row (environment out : Option String)
    (htext : files.readText? file = some text) (hrow : Row.ofToml file text = .ok [r]) :
    (Command.generate (some file) out false false).made environment files = madeOfRow r := by
  have hloaded : loaded environment (some file) files =
      (Row.validate [r]).mapError LoadError.rows := by
    change Endpoint.load file (files.readText? file) = _
    rw [htext]
    simp only [Endpoint.load, hrow, bind, Except.bind]
  rw [made_generate, hloaded, madeOfRow]
  cases Row.validate [r] <;> rfl

theorem madeOfRow_row (hpath : Text.Trims e.path e.path)
    (huri : Text.Trims e.backendUri e.backendUri) (hfilled : ¬ e.row.IsBlank)
    (habsolute : Uri.isAbsolute e.backendUri = true) :
    madeOfRow e.row = orFail Terraform.GenerationError.message (Terraform.generate [e]) := by
  rw [madeOfRow, Row.validate_row hpath huri hfilled habsolute]
  rfl

end Single

theorem eq_ok_of_toOption {ε α : Type} {x : Except ε α} {a : α} (h : x.toOption = some a) :
    x = .ok a := by
  cases x with
  | error e => cases h
  | ok b => exact congrArg Except.ok (Option.some.inj h)

/-- The command for one route and generation from a file of that route alone do the same, also where
they fail; and the text, or the complaint, is that of the route by itself. -/
theorem single_eq_generate {single generate : List String} {path uri file text : String}
    {m : Method} {key : Bool} {out : Option String} {files : Files}
    (hsingle : Request.ofArguments single = .run (.single path m uri key out))
    (hgenerate : Request.ofArguments generate = .run (.generate (some file) out false false))
    (hpath : ¬ Text.Blank path) (huri : ¬ Text.Blank uri)
    (htext : files.readText? file = some text)
    (hrow : Row.ofToml file text = .ok [⟨path, m, uri, key⟩])
    (environment environment' : Option String) :
    run single environment files = run generate environment' files ∧
    (Text.Trims path path → Text.Trims uri uri → Uri.isAbsolute uri = true → key = false →
      out = none →
      (∃ made, Terraform.generateSingle path m uri = .ok made ∧
        run single environment files = (.success made, files)) ∨
      ∃ e, Terraform.generateSingle path m uri = .error e ∧
        run single environment files = (.failure ⟨[], e.message⟩, files)) := by
  have hfilled : ¬ (⟨path, m, uri, key⟩ : Row).IsBlank := not_or.mpr ⟨hpath, huri⟩
  have hmade := made_single environment out files hfilled
  refine ⟨run_congr hsingle hgenerate ?_ rfl, ?_⟩
  · rw [hmade, made_generate_row environment' out htext hrow]
  · rintro hpathtrims huritrims habsolute rfl rfl
    have hsame : madeOfRow ⟨path, m, uri, false⟩ =
        orFail Terraform.GenerationError.message (Terraform.generateSingle path m uri) :=
      madeOfRow_row (e := ⟨path, m, uri, false⟩) hpathtrims huritrims hfilled habsolute
    rw [run_of_printing hsingle rfl, hmade, hsame]
    cases Terraform.generateSingle path m uri with
    | ok made => exact .inl ⟨made, rfl, rfl⟩
    | error e => exact .inr ⟨e, rfl, rfl⟩

theorem single_eq_generate_one_route :
    run ["single", "--path", "/a", "--backend-uri=https://example.com"] none .oneRoute =
      run ["generate", "--file=a.toml"] (some "b.toml") .oneRoute ∧
    ∃ made, Terraform.generateSingle "/a" .get "https://example.com" = .ok made ∧
      run ["single", "--path", "/a", "--backend-uri=https://example.com"] none .oneRoute =
        (.success made, .oneRoute) := by
  have htext : Files.oneRoute.readText? "a.toml" =
      some "[[endpoints]]\npath = '/a'\nbackend_uri = 'https://example.com'\n" := by decide +kernel
  have hread : (Row.ofToml "a.toml"
      "[[endpoints]]\npath = '/a'\nbackend_uri = 'https://example.com'\n").toOption =
      some [⟨"/a", .get, "https://example.com", false⟩] := by decide +kernel
  have hrow : Row.ofToml "a.toml"
      "[[endpoints]]\npath = '/a'\nbackend_uri = 'https://example.com'\n" =
      .ok [⟨"/a", .get, "https://example.com", false⟩] := eq_ok_of_toOption hread
  obtain ⟨hsame, hmade⟩ := single_eq_generate
    (show Request.ofArguments ["single", "--path", "/a", "--backend-uri=https://example.com"] =
      .run (.single "/a" .get "https://example.com" false none) by decide +kernel)
    (show Request.ofArguments ["generate", "--file=a.toml"] =
      .run (.generate (some "a.toml") none false false) by decide +kernel)
    (by decide +kernel) (by decide +kernel) htext hrow none (some "b.toml")
  have hpath : Text.trim "/a" = "/a" := by decide +kernel
  have huri : Text.trim "https://example.com" = "https://example.com" := by decide +kernel
  refine ⟨hsame, ?_⟩
  obtain hok | ⟨e, he, -⟩ := hmade (Text.trims_iff.mpr hpath.symm) (Text.trims_iff.mpr huri.symm)
    (by decide +kernel) rfl rfl
  · exact hok
  · have hroutable : Endpoint.Routable [⟨"/a", .get, "https://example.com", false⟩] :=
      Endpoint.routable_iff.mpr (by decide +kernel)
    have hgenerate := Terraform.generate_eq_ok_iff.mpr ⟨hroutable, rfl⟩
    cases he.symm.trans hgenerate

end CommandLine
end ApiGateway
