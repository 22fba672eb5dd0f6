import ApiGateway.Workspace
import ApiGateway.Proofs.Terraform.Precedence

/-! Runs of a workspace. Names outlive the tree they were emitted from, they can be taken without a
block, and the tree can grow or be replaced at any time; still no name is ever declared twice, no
block hangs on a name that nothing before it has taken, and no new name goes without its block. -/

namespace ApiGateway.Workspace

open Terraform (Block)

/-- How a name is taken: without a block, or by the block that declares it. -/
inductive Event
  | mark (name : String)
  | declare (b : Block)
  deriving DecidableEq

namespace Event

def name : Event → String
  | mark name => name
  | declare b => b.name

def block? : Event → Option Block
  | mark _ => none
  | declare b => some b

/-- A block fits the names that are taken if it declares a resource of another name, on the root or
on a name that is taken. A mark always fits. -/
def Fits (taken : Set String) : Event → Prop
  | mark _ => True
  | declare b => ∃ name parent part, b = .resource name parent part ∧ name ∉ taken ∧
    (parent = none ∨ ∃ x ∈ taken, parent = some x)

end Event

/-- The names that are taken by some events. -/
def names (es : List Event) : Set String := {x | ∃ e ∈ es, e.name = x}

def known (w : Workspace) : Set String := {x | x ∈ w.emitted}

/-- The workspace after a step, and the text that the step writes. One that fails does nothing. -/
def advance (w : Workspace) (s : Step) : Workspace × String :=
  match w.step s with
  | .ok result => result
  | .error _ => (w, "")

def events (w : Workspace) : Step → List Event
  | .mark name => [.mark name]
  | .emit =>
    match Terraform.emit w.tree w.emitted with
    | .ok (blocks, _) => blocks.map .declare
    | .error _ => []
  | _ => []

def run : Workspace → List Step → Workspace
  | w, [] => w
  | w, s :: steps => run (w.advance s).1 steps

def history : Workspace → List Step → List Event
  | _, [] => []
  | w, s :: steps => w.events s ++ history (w.advance s).1 steps

/-- All texts of a run, one behind the other. -/
def output : Workspace → List Step → String
  | _, [] => ""
  | w, s :: steps => (w.advance s).2 ++ output (w.advance s).1 steps

/-- A step that leaves the names that are taken, and adds no segment with a slash. -/
def Step.IsTame : Step → Prop
  | .insert ss => Path.SlashFree ss
  | .newNames => False
  | _ => True

/-- A tree of slash-free lists, as tame steps leave it. -/
def IsTame (w : Workspace) : Prop :=
  ∃ rs, (∀ ss ∈ rs, Path.SlashFree ss) ∧ w.tree = .ofLists rs

/-- Every event fits the names that are taken before it. -/
def Orderly (taken : Set String) (es : List Event) : Prop :=
  ∀ earlier e later, es = earlier ++ e :: later → e.Fits (taken ∪ names earlier)

section Orderly

variable {taken : Set String} {as bs es : List Event} {x : String}

theorem names_append (as bs : List Event) : names (as ++ bs) = names as ∪ names bs := by
  ext x
  simp [names, or_and_right, exists_or]

theorem names_nil : names [] = ∅ := by
  ext x
  simp [names]

theorem orderly_nil : Orderly taken [] := by
  intro earlier e later h
  simp at h

theorem orderly_mark (name : String) : Orderly taken [.mark name] := by
  intro earlier e later h
  have hmem : e ∈ [Event.mark name] := h ▸ by simp
  rw [List.mem_singleton.mp hmem]
  trivial

theorem Orderly.append (ha : Orderly taken as) (hb : Orderly (taken ∪ names as) bs) :
    Orderly taken (as ++ bs) := by
  intro earlier e later h
  rcases List.append_eq_append_iff.mp h with ⟨es, rfl, hes⟩ | ⟨es, rfl, hes⟩
  · rw [names_append, ← Set.union_assoc]
    exact hb es e later hes
  · cases es with
    | nil =>
      rw [List.append_nil] at hb
      have hfits := hb [] e later hes.symm
      rwa [names_nil, Set.union_empty] at hfits
    | cons a es =>
      obtain ⟨rfl, -⟩ := List.cons.inj hes
      exact ha earlier e es rfl

end Orderly

/-- What a part of a run does: it keeps the workspace tame, it takes the names of its events and no
others, in good order, and it writes the blocks that its events declare. -/
structure Leads (w : Workspace) (es : List Event) (text : String) (w' : Workspace) : Prop where
  tame : w'.IsTame
  known : w'.known = w.known ∪ names es
  orderly : Orderly w.known es
  text : text = Terraform.render (es.filterMap Event.block?)

section Leads

variable {w w' w'' : Workspace} {as bs : List Event} {s t : String}

theorem Leads.refl (h : w.IsTame) : w.Leads [] "" w where
  tame := h
  known := by rw [names_nil, Set.union_empty]
  orderly := orderly_nil
  text := rfl

theorem Leads.trans (h : w.Leads as s w') (h' : w'.Leads bs t w'') :
    w.Leads (as ++ bs) (s ++ t) w'' where
  tame := h'.tame
  known := by rw [h'.known, h.known, names_append, Set.union_assoc]
  orderly := h.orderly.append (h.known ▸ h'.orderly)
  text := by rw [h.text, h'.text, List.filterMap_append, Terraform.render_append]

end Leads

section Emission

variable {w : Workspace} {known : Terraform.Emitted}

theorem names_declare (ps : List Segments) :
    names (ps.map (Event.declare ∘ Terraform.resourceBlock)) =
      {x | x ∈ ps.map Path.resourceName} := by
  ext x
  simp [names, Event.name, Terraform.resourceBlock, Block.name]

theorem orderly_emission (rs : List Segments) (known : Terraform.Emitted) :
    Orderly {x | x ∈ known} (((Path.kept rs).filter (Path.resourceName · ∉ known)).map
      (Event.declare ∘ Terraform.resourceBlock)) := by
  intro earlier e later h
  obtain ⟨before, rest, hturn, rfl, hrest⟩ := List.map_eq_append_iff.mp h
  obtain ⟨p, after, rfl, rfl, -⟩ := List.map_eq_cons_iff.mp hrest
  have hnew := (Terraform.mem_turns hturn).2
  have hbefore := Terraform.name_new_of_turn hturn
  rw [names_declare]
  exact ⟨Path.resourceName p, Terraform.parentOf p, p.getLastD "", rfl,
    not_or.mpr ⟨hnew, hbefore⟩, Terraform.parentOf_of_turn hturn⟩

theorem step_emit_of_eq_ok {blocks : List Block} (h : Terraform.emit w.tree w.emitted =
    .ok (blocks, known)) :
    w.step .emit = .ok ({ w with emitted := known }, Terraform.render blocks) := by
  unfold step
  rw [h]
  rfl

/-- An emission never fails. It makes known the names of all nodes of the tree and no others. -/
theorem leads_emission (h : w.IsTame) : ∃ blocks known,
    Terraform.emit w.tree w.emitted = .ok (blocks, known) ∧
    (∀ x, x ∈ known ↔ x ∈ w.emitted ∨ ∃ n ∈ w.tree.toList, n.name = x) ∧
    w.Leads (blocks.map Event.declare) (Terraform.render blocks) { w with emitted := known } := by
  obtain ⟨rs, hrs, htree⟩ := h
  have hemit := Terraform.emit_ofLists hrs w.emitted
  have hkept (x : String) := Terraform.mem_names_kept hrs (x := x)
  rw [← htree] at hemit
  simp only [← htree] at hkept
  have hknown (x : String) : x ∈ w.emitted.insertMany
      (w.tree.byDepth.map ResourceTree.Node.name) ↔
        x ∈ w.emitted ∨ ∃ n ∈ w.tree.toList, n.name = x := Terraform.mem_insertMany_names
  refine ⟨_, _, hemit, hknown, ⟨rs, hrs, htree⟩, ?_, ?_, ?_⟩
  · ext x
    rw [List.map_map, names_declare]
    refine (hknown x).trans ?_
    rw [← hkept x]
    exact Terraform.mem_known_or_turns.symm
  · rw [List.map_map]
    exact orderly_emission rs w.emitted
  · have hblock : Event.block? ∘ Event.declare = some := rfl
    rw [List.filterMap_map, hblock, List.filterMap_some]

/-- An emission has a block for every name of the tree that is not known, and one only. -/
theorem exists_elects (h : w.IsTame) :
    ∃ ns, Terraform.Elects ResourceTree.Node.order w.tree w.emitted ns := by
  obtain ⟨rs, hrs, htree⟩ := h
  rw [htree]
  exact ⟨_, Terraform.elects_fresh hrs (ResourceTree.holds_ofLists rs).pairwise_byDepth _⟩

/-- Where all names of the tree are taken, an emission writes nothing and changes nothing. -/
theorem step_emit_of_known (h : w.IsTame) (hknown : ∀ n ∈ w.tree.toList, n.name ∈ w.emitted) :
    w.step .emit = .ok (w, "") := by
  obtain ⟨rs, hrs, htree⟩ := h
  have hemit : Terraform.emit w.tree w.emitted = .ok ([], w.emitted) := by
    rw [htree] at hknown ⊢
    exact Terraform.emit_ofLists_of_known hrs hknown
  exact step_emit_of_eq_ok hemit

end Emission

section Step

variable {w w' : Workspace} {s : Step} {steps : List Step}

theorem advance_of_step {text : String} (h : w.step s = .ok (w', text)) :
    w.advance s = (w', text) := by
  unfold advance
  rw [h]

/-- A step that can fail succeeds with what it takes over, and writes nothing. -/
theorem eq_ok_of_bind {ε α : Type} {x : Except ε α} {f : ε → Failure} {g : α → Workspace}
    {text : String}
    (h : (do let a ← x.mapError f; return (g a, "") : Except Failure (Workspace × String)) =
      .ok (w', text)) : ∃ a, x = .ok a ∧ w' = g a ∧ text = "" := by
  cases x with
  | error e => cases h
  | ok a =>
    obtain ⟨rfl, rfl⟩ := Prod.mk.inj (Except.ok.inj h)
    exact ⟨a, rfl, rfl, rfl⟩

/-- Whether it succeeds or not, a step takes no name that writes nothing, leaves the names as they
are and makes the tree one of slash-free lists when it succeeds. -/
theorem leads_quietly (h : w.IsTame) (hok : ∀ w' text, w.step s = .ok (w', text) →
    text = "" ∧ w'.emitted = w.emitted ∧ w'.IsTame) :
    w.Leads [] (w.advance s).2 (w.advance s).1 := by
  unfold advance
  cases hstep : w.step s with
  | error e => exact .refl h
  | ok result =>
    obtain ⟨htext, hemitted, htame⟩ := hok result.1 result.2 hstep
    refine ⟨htame, ?_, orderly_nil, htext⟩
    unfold known
    rw [hemitted, names_nil, Set.union_empty]

theorem IsTame.of_tree (h : w.IsTame) (ht : w'.tree = w.tree) : w'.IsTame := by
  obtain ⟨rs, hrs, htree⟩ := h
  exact ⟨rs, hrs, ht.trans htree⟩

theorem IsTame.insert {ss : Segments} (h : w.IsTame) (hss : Path.SlashFree ss)
    (ht : w'.tree = w.tree.insert ss) : w'.IsTame := by
  obtain ⟨rs, hrs, htree⟩ := h
  refine ⟨rs ++ [ss], ?_, ?_⟩
  · intro q hq
    rcases List.mem_append.mp hq with hq | hq
    · exact hrs q hq
    · exact List.mem_singleton.mp hq ▸ hss
  · rw [ht, htree, ResourceTree.ofLists, ResourceTree.ofLists, List.foldl_append]
    rfl

theorem IsTame.build {es : List Endpoint} (h : ResourceTree.build es = .ok w'.tree) :
    w'.IsTame := by
  have hroutable := ResourceTree.routable_of_build_eq_ok h
  rw [ResourceTree.build_of_routable hroutable, Except.ok.injEq] at h
  exact ⟨_, Endpoint.forall_mem_slashFree es, h.symm⟩

theorem leads_advance (h : w.IsTame) (hs : s.IsTame) :
    w.Leads (w.events s) (w.advance s).2 (w.advance s).1 := by
  cases s with
  | insert ss =>
    refine leads_quietly h fun w' text hstep => ?_
    obtain ⟨rfl, rfl⟩ := Prod.mk.inj (Except.ok.inj hstep)
    exact ⟨rfl, rfl, h.insert hs rfl⟩
  | insertPath path =>
    refine leads_quietly h fun w' text hstep => ?_
    obtain ⟨t, ht, rfl, rfl⟩ := eq_ok_of_bind hstep
    cases hss : Path.segments path with
    | error e =>
      rw [ResourceTree.insertPath, hss] at ht
      cases ht
    | ok ss =>
      rw [ResourceTree.insertPath, hss] at ht
      have hsplit := (Path.segments_eq_ok_iff.mp hss).1
      have hfree : Path.SlashFree ss := hsplit ▸ Path.slashFree_split path
      exact ⟨rfl, rfl, h.insert hfree (Except.ok.inj ht).symm⟩
  | build =>
    refine leads_quietly h fun w' text hstep => ?_
    obtain ⟨t, ht, rfl, rfl⟩ := eq_ok_of_bind hstep
    exact ⟨rfl, rfl, .build ht⟩
  | newTree =>
    refine leads_quietly h fun w' text hstep => ?_
    obtain ⟨rfl, rfl⟩ := Prod.mk.inj (Except.ok.inj hstep)
    exact ⟨rfl, rfl, [], by simp, rfl⟩
  | mark name =>
    refine ⟨h.of_tree rfl, ?_, orderly_mark name, rfl⟩
    ext x
    have hmem : x ∈ w.emitted.insert name ↔ x = name ∨ x ∈ w.emitted := Keys.mem_insert_iff
    have hname : x ∈ names [.mark name] ↔ x = name := by simp [names, Event.name, eq_comm]
    exact hmem.trans (or_comm.trans (or_congr_right hname.symm))
  | newNames => exact hs.elim
  | emit =>
    obtain ⟨blocks, known, hemit, -, hleads⟩ := leads_emission h
    have hevents : w.events .emit = blocks.map .declare := by
      unfold events
      rw [hemit]
    rw [hevents, advance_of_step (step_emit_of_eq_ok hemit)]
    exact hleads
  | load | validate =>
    refine leads_quietly h fun w' text hstep => ?_
    obtain ⟨es, -, rfl, rfl⟩ := eq_ok_of_bind hstep
    exact ⟨rfl, rfl, h.of_tree rfl⟩
  | save | set | add | sample | overrideApiKey | reverse =>
    refine leads_quietly h fun w' text hstep => ?_
    obtain ⟨rfl, rfl⟩ := Prod.mk.inj (Except.ok.inj hstep)
    exact ⟨rfl, rfl, h.of_tree rfl⟩

theorem leads_run (h : w.IsTame) (hs : ∀ s ∈ steps, s.IsTame) :
    w.Leads (w.history steps) (w.output steps) (w.run steps) := by
  induction steps generalizing w with
  | nil => exact .refl h
  | cons s steps ih =>
    obtain ⟨hhead, hrest⟩ := List.forall_mem_cons.mp hs
    have hstep := leads_advance h hhead
    exact hstep.trans (ih hstep.tame hrest)

end Step

theorem isTame_empty : empty.IsTame := ⟨[], by simp, rfl⟩

/-- In whatever order lists are added, trees are built or thrown away, names are marked and trees
are emitted: the blocks written fit what was taken before them, emission does not fail, it writes
one block for each name of the tree that was not known and no others, it makes known the names of
the tree and no others, and to emit the same tree again is to write nothing. -/
theorem run_orderly (steps : List Step) (h : ∀ s ∈ steps, s.IsTame) :
    empty.output steps = Terraform.render ((empty.history steps).filterMap Event.block?) ∧
    (∀ earlier e later, empty.history steps = earlier ++ e :: later → e.Fits (names earlier)) ∧
    ∃ v ns, (empty.run steps).step .emit =
        .ok (v, Terraform.render (ns.map fun n => Terraform.resourceBlock n.segments)) ∧
      Terraform.Elects ResourceTree.Node.order (empty.run steps).tree (empty.run steps).emitted ns ∧
      (∀ x, x ∈ v.emitted ↔
        x ∈ (empty.run steps).emitted ∨ ∃ n ∈ (empty.run steps).tree.toList, n.name = x) ∧
      ∀ more : List Step, (∀ s ∈ more, s.IsTame) →
        ({ v.run more with tree := (empty.run steps).tree } : Workspace).step .emit =
          .ok ({ v.run more with tree := (empty.run steps).tree }, "") := by
  have hrun := leads_run isTame_empty h
  have hnone : empty.known = ∅ := by
    ext x
    simp [known, empty]
  refine ⟨hrun.text, ?_, ?_⟩
  · intro earlier e later hsplit
    have hfits := hrun.orderly earlier e later hsplit
    rwa [hnone, Set.empty_union] at hfits
  · obtain ⟨blocks, emitted, hemit, hnames, hleads⟩ := leads_emission hrun.tame
    obtain ⟨ns, hns⟩ := exists_elects hrun.tame
    obtain ⟨known, helected⟩ := hns.emitted
    obtain ⟨rfl, -⟩ := Prod.mk.inj (Except.ok.inj (hemit.symm.trans helected))
    refine ⟨{ empty.run steps with emitted := emitted }, ns, step_emit_of_eq_ok hemit, hns, hnames,
      fun more hmore => ?_⟩
    have hlater := leads_run hleads.tame hmore
    refine step_emit_of_known (hrun.tame.of_tree rfl) fun n hn => ?_
    -- What an emission has made known stays known, whatever the steps after it do.
    have hknown : n.name ∈ ({ empty.run steps with emitted := emitted } : Workspace).known :=
      (hnames n.name).mpr (.inr ⟨n, hn, rfl⟩)
    have hkept := hlater.known.symm ▸ Set.mem_union_left (names _) hknown
    exact hkept

theorem run_orderly_interleaved :
    (∀ earlier e later, empty.history [.mark "a", .insert ["a", "b"], .emit,
        .set [⟨"/a_b/c", .get, "https://example.com", false⟩], .build, .emit, .newTree,
        .insert ["", "x"], .emit] = earlier ++ e :: later → e.Fits (names earlier)) ∧
    ∃ v text, (empty.run [.mark "a", .insert ["a", "b"], .emit,
        .set [⟨"/a_b/c", .get, "https://example.com", false⟩], .build, .emit, .newTree,
        .insert ["", "x"], .emit]).step .emit = .ok (v, text) := by
  obtain ⟨-, hfits, v, ns, hemit, -⟩ := run_orderly [.mark "a", .insert ["a", "b"],
    .emit, .set [⟨"/a_b/c", .get, "https://example.com", false⟩], .build, .emit, .newTree,
    .insert ["", "x"], .emit] (by simp [Step.IsTame, Path.SlashFree])
  exact ⟨hfits, v, _, hemit⟩

end ApiGateway.Workspace
