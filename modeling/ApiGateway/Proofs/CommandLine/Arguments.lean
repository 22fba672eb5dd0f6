import ApiGateway.CommandLine.Arguments

/-! Arguments for every command: each option with an equals sign in front of its value, so that any
value is understood, whatever it begins with. -/

namespace ApiGateway.CommandLine

def TreeFormat.word : TreeFormat → String
  | text => "text"
  | json => "json"

theorem TreeFormat.ofText?_word (f : TreeFormat) : ofText? f.word = some f := by cases f <;> rfl

def argument (name value : String) : String := name ++ "=" ++ value

/-- An option that may be left out. -/
def optional (name : String) (value : Option String) : List String :=
  (value.map (argument name)).toList

def switch (name : String) (on : Bool) : List String := if on then [name] else []

/-- Arguments that a command can be given by. -/
def Command.arguments : Command → List String
  | generate file out requireApiKey strict =>
    "generate" :: (optional "--file" file ++ (optional "--out" out ++
      (switch "--require-api-key" requireApiKey ++ switch "--strict" strict)))
  | single path method backendUri apiKeyRequired out =>
    "single" :: argument "--path" path :: argument "--method" method.verb ::
      argument "--backend-uri" backendUri :: (switch "--api-key-required" apiKeyRequired ++
      optional "--out" out)
  | lint file => "lint" :: optional "--file" file
  | tree file format => "tree" :: (optional "--file" file ++ [argument "--format" format.word])
  | sample out => "example" :: optional "--out" out

/-- The name of a long option. -/
structure IsOption (name : String) : Prop where
  dashes : ['-', '-'] <+: name.toList
  noEquals : '=' ∉ name.toList
  notHelp : name ≠ "--help"

instance (name : String) : Decidable (IsOption name) :=
  decidable_of_iff (['-', '-'] <+: name.toList ∧ '=' ∉ name.toList ∧ name ≠ "--help")
    ⟨fun h => ⟨h.1, h.2.1, h.2.2⟩, fun h => ⟨h.dashes, h.noEquals, h.notHelp⟩⟩

section Step

variable {choices : List Choice} {name value : String} {takes : String → Bool} {rest : List String}

theorem IsOption.ne_equals (h : IsOption name) : ∀ c ∈ name.toList, decide (c ≠ '=') = true :=
  fun _ hc => decide_eq_true fun heq => h.noEquals (heq ▸ hc)

theorem splitValue_argument (h : IsOption name) :
    splitValue (argument name value) = (name, some value) := by
  have hchars : (argument name value).toList = name.toList ++ '=' :: value.toList := by
    simp [argument]
  rw [splitValue, hchars, List.takeWhile_append_of_pos h.ne_equals,
    List.dropWhile_append_of_pos h.ne_equals]
  simp

theorem splitValue_switch (h : IsOption name) : splitValue name = (name, none) := by
  have hname : (name.toList ++ []).takeWhile (· ≠ '=') = name.toList ++ [] :=
    List.takeWhile_append_of_pos h.ne_equals
  rw [List.append_nil] at hname
  rw [splitValue, hname, if_neg h.noEquals, String.ofList_toList]

theorem isShort_eq_false {arg : String} (h : ['-', '-'] <+: arg.toList) :
    isShort 'h' arg = false := by
  obtain ⟨cs, hcs⟩ := h
  simp [isShort, ← hcs, List.isPrefixOf]

theorem argument_ne {arg : String} (h : '=' ∉ arg.toList) : argument name value ≠ arg := by
  rintro rfl
  simp [argument] at h

theorem not_asksForHelp_argument (h : IsOption name) :
    asksForHelp (argument name value) = false := by
  have hdashes : ['-', '-'] <+: (argument name value).toList := by
    rw [argument, String.append_assoc, String.toList_append]
    exact h.dashes.trans (List.prefix_append _ _)
  have hhelp : argument name value ≠ "--help" := argument_ne (by decide)
  simp [asksForHelp, isShort_eq_false hdashes, hhelp]

theorem readOptions_argument (h : IsOption name) :
    readOptions choices (argument name value :: rest) =
      match choices.find? (·.name = name) with
      | some ⟨_, some takes⟩ =>
        if takes value then
          (readOptions (choices.filter (·.name ≠ name)) rest).map ((name, value) :: ·)
        else .error .misuse
      | _ => .error .misuse := by
  rw [readOptions]
  · rw [not_asksForHelp_argument h, splitValue_argument h]
    simp only [Bool.false_eq_true, if_false]
    split <;> simp_all
  · intro heq
    exact absurd heq (argument_ne (by decide))

theorem readOptions_switch (h : IsOption name) (hne : name ≠ "--")
    (hfind : choices.find? (·.name = name) = some ⟨name, none⟩) :
    readOptions choices (name :: rest) =
      (readOptions (choices.filter (·.name ≠ name)) rest).map ((name, "") :: ·) := by
  rw [readOptions]
  · simp [asksForHelp, h.notHelp, isShort_eq_false h.dashes, splitValue_switch h, hfind]
  · intro heq
    exact absurd heq hne

end Step

theorem readOptions_nil (choices : List Choice) : readOptions choices [] = .ok [] := by
  rw [readOptions]

/-- Every command can be given, whatever the values of its options are. -/
theorem ofArguments_arguments (c : Command) : Request.ofArguments c.arguments = .run c := by
  have hfile : IsOption "--file" := by decide
  have hout : IsOption "--out" := by decide
  cases c with
  | generate file out requireApiKey strict =>
    have hkey : IsOption "--require-api-key" := by decide
    have hstrict : IsOption "--strict" := by decide
    simp only [Command.arguments, Request.ofArguments, readCommand, command?]
    cases file <;> cases out <;> cases requireApiKey <;> cases strict <;>
      simp [isShort, asksForHelp, optional, switch, readOptions_nil, readOptions_argument,
        readOptions_switch, hfile, hout, hkey, hstrict, Choice.text, Choice.flag, Except.map,
        Given.value?, Given.has, List.lookup_cons]
  | single path method backendUri apiKeyRequired out =>
    have hpath : IsOption "--path" := by decide
    have hmethod : IsOption "--method" := by decide
    have huri : IsOption "--backend-uri" := by decide
    have hkey : IsOption "--api-key-required" := by decide
    simp only [Command.arguments, Request.ofArguments, readCommand, command?]
    cases apiKeyRequired <;> cases out <;>
      simp [isShort, asksForHelp, optional, switch, readOptions_nil, readOptions_argument,
        readOptions_switch, hpath, hmethod, huri, hkey, hout, Choice.text, Choice.flag,
        Choice.ofParser, Method.ofText?_verb, Except.map, Given.value?, Given.has, Given.parsed?,
        List.lookup_cons]
  | lint file =>
    simp only [Command.arguments, Request.ofArguments, readCommand, command?]
    cases file <;>
      simp [isShort, asksForHelp, optional, readOptions_nil, readOptions_argument, hfile,
        Choice.text, Except.map, Given.value?]
  | tree file format =>
    have hformat : IsOption "--format" := by decide
    simp only [Command.arguments, Request.ofArguments, readCommand, command?]
    cases file <;>
      simp [isShort, asksForHelp, optional, readOptions_nil, readOptions_argument, hfile, hformat,
        Choice.text, Choice.ofParser, TreeFormat.ofText?_word, Except.map, Given.value?,
        Given.parsed?, List.lookup_cons]
  | sample out =>
    simp only [Command.arguments, Request.ofArguments, readCommand, command?]
    cases out <;>
      simp [isShort, asksForHelp, optional, readOptions_nil, readOptions_argument, hout,
        Choice.text, Except.map, Given.value?]

end ApiGateway.CommandLine
