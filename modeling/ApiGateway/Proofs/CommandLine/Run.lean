import ApiGateway.CommandLine.Run
import ApiGateway.Proofs.CommandLine.Arguments
import ApiGateway.Proofs.CommandLine.Files

/-! A run does all that it is asked for or nothing: it fails without a trace, or its whole text is
printed, or its whole text is what the one file it was to be written to now holds. -/

namespace ApiGateway.CommandLine

namespace Command

/-- The same command with no file to write to. -/
def printing : Command → Command
  | generate file _ requireApiKey strict => generate file none requireApiKey strict
  | single path method backendUri apiKeyRequired _ =>
    single path method backendUri apiKeyRequired none
  | lint file => lint file
  | tree file format => tree file format
  | sample _ => sample none

theorem out?_printing (c : Command) : c.printing.out? = none := by cases c <;> rfl

theorem source?_printing (environment : Option String) (c : Command) :
    c.printing.source? environment = c.source? environment := by cases c <;> rfl

theorem output_printing (file : String) (contents : Option String) (c : Command) :
    c.printing.output file contents = c.output file contents := by cases c <;> rfl

/-- The text that a command makes of the files, or why it makes none. -/
def made (environment : Option String) (files : Files) (c : Command) : Except Failure String :=
  c.output ((c.source? environment).getD "") (files.readText? ((c.source? environment).getD ""))

theorem made_printing (environment : Option String) (files : Files) (c : Command) :
    c.printing.made environment files = c.made environment files := by
  rw [made, made, output_printing, source?_printing]

end Command

/-- What a command shows that has no file to write to. -/
def Outcome.shown : Except Failure String → Outcome
  | .ok text => .success text
  | .error f => .failure f

section RunCommand

variable {environment : Option String} {files : Files} {c : Command} {args : List String}

theorem run_eq (h : Request.ofArguments args = .run c) :
    run args environment files = runCommand environment files c := by
  rw [run, h]

theorem runCommand_eq (environment : Option String) (files : Files) (c : Command) :
    runCommand environment files c =
      match c.made environment files with
      | .error f => (.failure f, files)
      | .ok text =>
        match c.out? with
        | none => (.success text, files)
        | some name =>
          match files.write name text with
          | .ok written => (.success "", written)
          | .error e => (.failure ⟨[], e.message⟩, files) := rfl

theorem runCommand_of_printing (h : c.out? = none) :
    runCommand environment files c = (.shown (c.made environment files), files) := by
  rw [runCommand_eq, h]
  cases c.made environment files <;> rfl

theorem run_of_printing (hc : Request.ofArguments args = .run c) (hout : c.out? = none)
    (environment : Option String) (files : Files) :
    run args environment files = (.shown (c.made environment files), files) := by
  rw [run_eq hc, runCommand_of_printing hout]

/-- A command fails and leaves the files alone, or prints its text and leaves them alone, or writes
its text and prints nothing. -/
theorem runCommand_cases (environment : Option String) (files : Files) (c : Command) :
    (∃ f, runCommand environment files c = (.failure f, files)) ∨
    (∃ text, c.out? = none ∧ runCommand environment files c = (.success text, files)) ∨
    ∃ text name written, c.out? = some name ∧ c.made environment files = .ok text ∧
      files.write name text = .ok written ∧
      runCommand environment files c = (.success "", written) := by
  rw [runCommand_eq]
  cases c.made environment files with
  | error f => exact .inl ⟨f, rfl⟩
  | ok text =>
    cases hout : c.out? with
    | none => exact .inr (.inl ⟨text, rfl, rfl⟩)
    | some name =>
      cases hwrite : files.write name text with
      | error e => exact .inl ⟨⟨[], e.message⟩, by simp only [hwrite]⟩
      | ok written =>
        exact .inr (.inr ⟨text, name, written, rfl, rfl, hwrite, by simp only [hwrite]⟩)

theorem files_of_code_ne_zero (h : (run args environment files).1.code ≠ 0) :
    (run args environment files).1.stdout = "" ∧ (run args environment files).2 = files := by
  revert h
  rw [run]
  cases Request.ofArguments args with
  | run c =>
    obtain ⟨f, h⟩ | ⟨text, -, h⟩ | ⟨text, name, written, -, -, -, h⟩ :=
      runCommand_cases environment files c
    · simp [h, Outcome.failure]
    · simp [h, Outcome.success]
    · simp [h, Outcome.success]
  | version => simp [Outcome.success]
  | help => simp [Outcome.success]
  | misuse => simp [Outcome.misuse]

theorem writes_of_code_eq_zero {name : String} (hc : Request.ofArguments args = .run c)
    (hout : c.out? = some name) (h : (run args environment files).1.code = 0) :
    (run args environment files).1.stdout = "" ∧ ∃ printed p,
      c.made environment files = .ok printed ∧
      Files.WrittenAt p files (run args environment files).2 name printed := by
  rw [run_eq hc] at h ⊢
  obtain ⟨f, hrun⟩ | ⟨text, hnone, -⟩ | ⟨text, name', written, hout', hmade, hwrite, hrun⟩ :=
    runCommand_cases environment files c
  · simp [hrun, Outcome.failure] at h
  · simp [hout] at hnone
  · obtain rfl := Option.some.inj (hout.symm.trans hout')
    obtain ⟨p, hp⟩ := Files.writtenAt_of_write hwrite
    rw [hrun]
    exact ⟨rfl, text, p, hmade, hp⟩

end RunCommand

/-- A run that fails prints nothing and leaves every file as it was. One that succeeds and has a
file to write to prints nothing, and what the same command prints without is then in that file; no
other file is touched. -/
theorem run_all_or_nothing (args : List String) (environment : Option String) (files : Files) :
    ((run args environment files).1.code ≠ 0 →
      (run args environment files).1.stdout = "" ∧ (run args environment files).2 = files) ∧
    ∀ c name, Request.ofArguments args = .run c → c.out? = some name →
      (run args environment files).1.code = 0 →
      (run args environment files).1.stdout = "" ∧ ∃ printed p,
        (∃ args', Request.ofArguments args' = .run c.printing) ∧
        (∀ args', Request.ofArguments args' = .run c.printing →
          run args' environment files = (.success printed, files)) ∧
        Files.WrittenAt p files (run args environment files).2 name printed := by
  refine ⟨files_of_code_ne_zero, fun c name hc hout hcode => ?_⟩
  obtain ⟨hstdout, printed, p, hmade, hp⟩ := writes_of_code_eq_zero hc hout hcode
  refine ⟨hstdout, printed, p, ⟨_, ofArguments_arguments c.printing⟩, fun args' hargs => ?_, hp⟩
  rw [run_of_printing hargs c.out?_printing, Command.made_printing, hmade]
  rfl

/-- A working directory with the endpoints file of one route in it. -/
def Files.oneRoute : Files :=
  ⟨[(["a.toml"], "[[endpoints]]\npath = '/a'\nbackend_uri = 'https://example.com'\n".toUTF8)]⟩

theorem run_all_or_nothing_same_file : ∃ printed,
    run ["generate", "--file=a.toml"] none .oneRoute = (.success printed, .oneRoute) ∧
    (run ["generate", "--file=a.toml", "--out=a.toml"] none .oneRoute).1 = .success "" ∧
    (run ["generate", "--file=a.toml", "--out=a.toml"] none .oneRoute).2.read? "a.toml" =
      some printed.toUTF8 := by
  have hcode : (run ["generate", "--file=a.toml", "--out=a.toml"] none .oneRoute).1 =
      .success "" := by decide +kernel
  obtain ⟨-, printed, p, -, hprinted, hp⟩ := (run_all_or_nothing
    ["generate", "--file=a.toml", "--out=a.toml"] none .oneRoute).2
    (.generate (some "a.toml") (some "a.toml") false false) "a.toml" (by decide +kernel) rfl
    (congrArg Outcome.code hcode)
  exact ⟨printed, hprinted ["generate", "--file=a.toml"] (by decide +kernel), hcode, hp.content⟩

end ApiGateway.CommandLine
