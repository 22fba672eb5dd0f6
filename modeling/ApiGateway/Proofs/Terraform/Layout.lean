import ApiGateway.Proofs.Path.Name
import ApiGateway.Proofs.Terraform.References

/-! The layout of a configuration can be undone. As long as no line feed is written, the text comes
apart into lines and these into blocks, whatever else stands in them. -/

namespace ApiGateway.Terraform

/-- The text has no line feed in it. -/
def OneLine (s : String) : Prop := '\n' ∉ s.toList

instance : DecidablePred OneLine := fun s => inferInstanceAs (Decidable ('\n' ∉ s.toList))

section OneLine

variable {s t label value : String}

theorem OneLine.append (hs : OneLine s) (ht : OneLine t) : OneLine (s ++ t) := by
  simp only [OneLine, String.toList_append, List.mem_append, not_or]
  exact ⟨hs, ht⟩

theorem OneLine.quote (h : OneLine s) : OneLine (quote s) :=
  .append (.append (by decide) h) (by decide)

theorem OneLine.line {width : Nat} (hl : OneLine label) (hv : OneLine value) :
    OneLine (Group.line width label value) := by
  have hpad : OneLine (String.ofList (List.replicate (width - label.length) ' ')) := by
    simp [OneLine, List.mem_replicate]
  exact .append (.append (.append (.append (by decide) hl) hpad) (by decide)) hv

theorem oneLine_verb (m : Method) : OneLine m.verb := by cases m <;> decide

theorem oneLine_kind (k : Kind) : OneLine k.text := by cases k <;> decide

theorem OneLine.reference {k : Kind} (h : OneLine s) : OneLine (reference k s) :=
  .append (.append (oneLine_kind k) (by decide)) h

theorem OneLine.idOf (h : OneLine s) : OneLine (idOf s) := .append h (by decide)

theorem OneLine.listOf (h : OneLine s) : OneLine (listOf s) :=
  .append (.append (by decide) h) (by decide)

theorem OneLine.methodName {m : Method} (h : OneLine s) : OneLine (methodName s m) := by
  have hverb : OneLine m.lower := by cases m <;> decide
  exact .append (.append h (by decide)) hverb

end OneLine

namespace Block

def heading (b : Block) : String :=
  "resource " ++ quote b.kind.text ++ " " ++ quote b.name ++ " \x7b"

/-- The lines of a block without those that end it. -/
def entry (b : Block) : List String :=
  b.heading :: [""].intercalate (b.groups.map Group.lines)

/-- The texts of a block that are not its own. -/
def texts : Block → List String
  | resource name parent pathPart => name :: pathPart :: parent.toList
  | method res _ _ => [res]
  | integration res _ uri => [res, uri]

theorem render_eq (b : Block) :
    b.render = Text.joinWith "\n" (b.entry ++ ["\x7d", ""] ++ [""]) := by
  rw [render, lines, entry, heading]
  simp

end Block

section Entry
variable {b c : Block}

theorem mem_intercalate {l : String} {ls : List (List String)} (h : l ∈ [""].intercalate ls) :
    l = "" ∨ ∃ g ∈ ls, l ∈ g := by
  induction ls with
  | nil => simp at h
  | cons g ls ih =>
    cases ls with
    | nil =>
      rw [List.intercalate_singleton] at h
      exact .inr ⟨g, List.mem_cons_self, h⟩
    | cons g' ls =>
      rw [List.intercalate_cons_cons, List.mem_append, List.mem_append, List.mem_singleton] at h
      rcases h with (h | h) | h
      · exact .inr ⟨g, List.mem_cons_self, h⟩
      · exact .inl h
      · exact (ih h).imp_right fun ⟨g, hg, hl⟩ => ⟨g, List.mem_cons_of_mem _ hg, hl⟩

theorem mem_entry {l : String} (h : l ∈ b.entry) :
    l = b.heading ∨ l = "" ∨ ∃ width, ∃ a ∈ b.attributes, l = Group.line width a.1 a.2 := by
  refine (List.mem_cons.mp h).imp_right fun h => (mem_intercalate h).imp_right ?_
  rintro ⟨ls, hls, hl⟩
  obtain ⟨g, hg, rfl⟩ := List.mem_map.mp hls
  obtain ⟨a, ha, rfl⟩ := List.mem_map.mp hl
  exact ⟨g.width, a, List.mem_flatMap.mpr ⟨g, hg, ha⟩, rfl⟩

theorem close_not_mem_entry (b : Block) : "\x7d" ∉ b.entry := by
  -- A heading begins with a letter and an attribute with blanks.
  intro h
  rcases mem_entry h with h | h | ⟨width, a, -, h⟩
  · have hchars := congrArg String.toList h
    simp [Block.heading] at hchars
  · exact absurd h (by decide)
  · have hchars := congrArg String.toList h
    simp [Group.line] at hchars

theorem oneLine_attributes (h : ∀ s ∈ b.texts, OneLine s) :
    ∀ a ∈ b.attributes, OneLine a.1 ∧ OneLine a.2 := by
  cases b with
  | resource name parent part =>
    simp only [Block.texts, List.forall_mem_cons] at h
    obtain ⟨-, hpart, hparent⟩ := h
    cases parent with
    | none =>
      simp only [Block.attributes, Block.groups, List.flatMap_cons, List.flatMap_nil,
        Option.map_none, Option.toList_none, Option.elim_none, List.append_nil,
        List.forall_mem_cons]
      exact ⟨by decide, by decide, ⟨by decide, hpart.quote⟩, by simp⟩
    | some p =>
      have hp : OneLine (reference .resource p) := (hparent p (by simp)).reference
      simp only [Block.attributes, Block.groups, List.flatMap_cons, List.flatMap_nil,
        Option.map_some, Option.toList_some, Option.elim_some, List.append_nil, List.cons_append,
        List.nil_append, List.forall_mem_cons]
      exact ⟨by decide, ⟨by decide, hp.idOf⟩, ⟨by decide, hpart.quote⟩, ⟨by decide, hp.listOf⟩,
        by simp⟩
  | method res m key =>
    have href : OneLine (reference .resource res) := (h res (by simp [Block.texts])).reference
    have hkey : OneLine (if key then "true" else "false") := by cases key <;> decide
    simp only [Block.attributes, Block.groups, List.flatMap_cons, List.flatMap_nil, List.append_nil,
      List.forall_mem_cons]
    exact ⟨by decide, ⟨by decide, href.idOf⟩, ⟨by decide, (oneLine_verb m).quote⟩, by decide,
      ⟨by decide, hkey⟩, ⟨by decide, href.listOf⟩, by simp⟩
  | integration res m uri =>
    simp only [Block.texts, List.forall_mem_cons] at h
    obtain ⟨hres, huri, -⟩ := h
    have href : OneLine (reference .method (methodName res m)) := hres.methodName.reference
    simp only [Block.attributes, Block.groups, List.flatMap_cons, List.flatMap_nil, List.append_nil,
      List.cons_append, List.nil_append, List.forall_mem_cons]
    exact ⟨by decide, ⟨by decide, hres.reference.idOf⟩, ⟨by decide, href.append (by decide)⟩,
      ⟨by decide, (oneLine_verb m).quote⟩, by decide, ⟨by decide, huri.quote⟩,
      ⟨by decide, href.listOf⟩, by simp⟩

theorem oneLine_name (h : ∀ s ∈ b.texts, OneLine s) : OneLine b.name := by
  cases b with
  | resource name parent part => exact h name (by simp [Block.texts])
  | method res m key => exact (h res (by simp [Block.texts])).methodName
  | integration res m uri => exact (h res (by simp [Block.texts])).methodName.append (by decide)

theorem oneLine_entry (h : ∀ s ∈ b.texts, OneLine s) : ∀ l ∈ b.entry, OneLine l := by
  intro l hl
  rcases mem_entry hl with rfl | rfl | ⟨width, a, ha, rfl⟩
  · have hkind : OneLine (quote b.kind.text) := (oneLine_kind b.kind).quote
    exact .append (.append (.append (.append (by decide) hkind) (by decide))
      (oneLine_name h).quote) (by decide)
  · decide
  · obtain ⟨hlabel, hvalue⟩ := oneLine_attributes h a ha
    exact hlabel.line hvalue

theorem line_inj {width : Nat} {label v w : String} :
    Group.line width label v = Group.line width label w ↔ v = w := String.append_right_inj _

theorem quote_inj {v w : String} : quote v = quote w ↔ v = w := by
  simp [quote]

theorem heading_inj : b.heading = c.heading ↔ b.kind = c.kind ∧ b.name = c.name := by
  constructor
  · intro h
    have hchars := congrArg String.toList h
    cases hb : b.kind <;> cases hc : c.kind <;>
      simp [Block.heading, quote, hb, hc, Kind.text] at hchars <;>
      exact ⟨rfl, String.toList_injective hchars⟩
  · rintro ⟨hk, hn⟩
    simp [Block.heading, hk, hn]

theorem parentId_inj {p q : Option String} :
    (p.map (reference .resource)).elim rootResourceId idOf =
      (q.map (reference .resource)).elim rootResourceId idOf ↔ p = q := by
  cases p <;> cases q <;>
    simp [idOf_inj, reference_inj, idOf_reference_ne_root, (idOf_reference_ne_root _ _).symm]

/-- A block can be told from its lines, whatever stands in it. -/
theorem entry_injective (h : b.entry = c.entry) : b = c := by
  obtain ⟨hheading, hrest⟩ := List.cons.inj h
  obtain ⟨hkind, hname⟩ := heading_inj.mp hheading
  cases b <;> cases c <;> simp only [Block.kind, reduceCtorEq] at hkind
  case resource n p part n' p' part' =>
    obtain rfl : n = n' := hname
    simp only [Block.groups, Group.lines, List.map_cons, List.map_nil, List.intercalate_singleton,
      List.cons_append, List.nil_append, List.cons.injEq, line_inj, true_and] at hrest
    obtain ⟨hparent, hpart, -⟩ := hrest
    rw [parentId_inj.mp hparent, quote_inj.mp hpart]
  case method res m key res' m' key' =>
    simp only [Block.groups, Group.lines, List.map_cons, List.map_nil, List.intercalate_singleton,
      List.cons.injEq, line_inj, true_and] at hrest
    obtain ⟨hres, hverb, hkey, -⟩ := hrest
    rw [idOf_inj, reference_inj] at hres
    obtain rfl : key = key' := by cases key <;> cases key' <;> simp at hkey ⊢
    rw [hres.2, Method.verb_injective (quote_inj.mp hverb)]
  case integration res m uri res' m' uri' =>
    -- The two lines that name the method say nothing new: the resource and the verb have it.
    simp only [Block.groups, Group.lines, List.map_cons, List.map_nil, List.intercalate_cons_cons,
      List.intercalate_singleton, List.cons_append, List.nil_append, List.cons.injEq, line_inj,
      true_and] at hrest
    obtain ⟨hres, -, hverb, huri, -⟩ := hrest
    rw [idOf_inj, reference_inj] at hres
    rw [hres.2, Method.verb_injective (quote_inj.mp hverb), quote_inj.mp huri]

end Entry

section Render

variable {bs cs : List Block}

theorem eq_of_append_cons_eq {α : Type} {a : α} {as bs xs ys : List α} (has : a ∉ as)
    (hbs : a ∉ bs) (h : as ++ a :: xs = bs ++ a :: ys) : as = bs ∧ xs = ys := by
  rcases List.append_eq_append_iff.mp h with ⟨zs, hzs, hrest⟩ | ⟨zs, hzs, hrest⟩
  · cases zs with
    | nil => exact ⟨by simpa using hzs.symm, (List.cons.inj hrest).2⟩
    | cons z zs =>
      obtain ⟨rfl, -⟩ := List.cons.inj hrest
      exact absurd (hzs ▸ by simp) hbs
  · cases zs with
    | nil => exact ⟨by simpa using hzs, (List.cons.inj hrest).2.symm⟩
    | cons z zs =>
      obtain ⟨rfl, -⟩ := List.cons.inj hrest
      exact absurd (hzs ▸ by simp) has

/-- The closing lines cut the lines of several blocks into the lines of each. -/
theorem eq_of_entries_eq (h : bs.flatMap (fun b => b.entry ++ ["\x7d", ""]) =
    cs.flatMap fun c => c.entry ++ ["\x7d", ""]) : bs = cs := by
  induction bs generalizing cs with
  | nil =>
    cases cs with
    | nil => rfl
    | cons c cs => simp [Block.entry] at h
  | cons b bs ih =>
    cases cs with
    | nil => simp [Block.entry] at h
    | cons c cs =>
      rw [List.flatMap_cons, List.flatMap_cons, List.append_assoc, List.append_assoc] at h
      -- On both sides the first closing line is the one behind the first entry.
      obtain ⟨hentry, hrest⟩ := eq_of_append_cons_eq (close_not_mem_entry b)
        (close_not_mem_entry c) h
      rw [entry_injective hentry, ih (List.cons.inj hrest).2]

theorem render_cons (b : Block) (bs : List Block) : render (b :: bs) = b.render ++ render bs :=
  render_append [b] bs

theorem pieces_render (h : ∀ b ∈ bs, ∀ s ∈ b.texts, OneLine s) :
    Text.pieces '\n' (render bs).toList =
      (bs.flatMap fun b => b.entry ++ ["\x7d", ""]).map String.toList ++ [[]] := by
  induction bs with
  | nil => rfl
  | cons b bs ih =>
    obtain ⟨hb, hbs⟩ := List.forall_mem_cons.mp h
    have hlines : ∀ l ∈ b.entry ++ ["\x7d", ""], '\n' ∉ l.toList := by
      intro l hl
      have hclose : ∀ l ∈ ["\x7d", ""], OneLine l := by decide
      exact (List.mem_append.mp hl).elim (oneLine_entry hb l) (hclose l)
    have hne : b.entry ++ ["\x7d", ""] ≠ [] := by simp
    rw [render_cons, String.toList_append, Block.render_eq]
    refine (Text.pieces_joinWith_append hne hlines _).trans ?_
    rw [ih hbs, List.flatMap_cons]
    simp only [List.map_append, List.append_assoc]

theorem render_injective (hb : ∀ b ∈ bs, ∀ s ∈ b.texts, OneLine s)
    (hc : ∀ c ∈ cs, ∀ s ∈ c.texts, OneLine s) (h : render bs = render cs) : bs = cs := by
  have hpieces := congrArg (fun s => Text.pieces '\n' s.toList) h
  simp only [pieces_render hb, pieces_render hc] at hpieces
  have hmap := List.append_cancel_right hpieces
  exact eq_of_entries_eq (List.map_injective_iff.mpr (fun _ _ => String.toList_injective) hmap)

end Render

end ApiGateway.Terraform
