import ApiGateway.Proofs.Endpoint.Validation
import ApiGateway.Proofs.Terraform.Reading
import ApiGateway.Proofs.Terraform.TreeFree
import ApiGateway.Text.Digits
import Mathlib.Data.List.Infix

/-! Quoted texts of a configuration as they are read. A text is written between quotes as it is, so
it is read as it is just if nothing in it ends the literal, breaks its line or stands for something
else. -/

namespace ApiGateway.Terraform

section Reader

/-- The character that `n` hexadecimal digits stand for. -/
def codePoint? (n : Nat) (cs : List Char) : Option Char :=
  let digits := cs.take n
  let number := Text.numberIn 16 digits
  if digits.length = n ∧ digits.all Text.isHexDigit ∧ number.isValidChar then
    some (Char.ofNat number)
  else none

/-- What an escape stands for, read from behind its backslash, and its length from there on. -/
def escape? : List Char → Option (Char × Nat)
  | 'n' :: _ => some ('\n', 1)
  | 'r' :: _ => some ('\r', 1)
  | 't' :: _ => some ('\t', 1)
  | '"' :: _ => some ('"', 1)
  | '\\' :: _ => some ('\\', 1)
  | 'u' :: cs => (codePoint? 4 cs).map (·, 5)
  | 'U' :: cs => (codePoint? 8 cs).map (·, 9)
  | _ => none

/-- What a character of a literal stands for, and how many of the characters behind it belong to
it. Nothing is read where the line ends, or where a dollar or a percent sign before a brace begins
a template; doubled signs stand for themselves there. -/
def readChar? (c : Char) (cs : List Char) : Option (List Char × Nat) :=
  if c = '\n' ∨ c = '\r' then none
  else if c = '\\' then (escape? cs).map fun (d, n) => ([d], n)
  else if c = '$' ∨ c = '%' then
    if ['\x7b'] <+: cs then none
    else if [c, '\x7b'] <+: cs then some ([c, '\x7b'], 2)
    else some ([c], 0)
  else some ([c], 0)

/-- The value of a literal and what follows its closing quote, when some characters that have been
read are skipped first. -/
def readFrom : Nat → List Char → Option (List Char × List Char)
  | _, [] => none
  | skip + 1, _ :: cs => readFrom skip cs
  | 0, c :: cs =>
    if c = '"' then some ([], cs)
    else match readChar? c cs with
      | none => none
      | some (value, skip) => (readFrom skip cs).map fun (v, rest) => (value ++ v, rest)

/-- Reads a literal from behind its opening quote. -/
def readLiteral (cs : List Char) : Option (List Char × List Char) := readFrom 0 cs

end Reader

/-- Nothing in the text has a meaning of its own between quotes. -/
structure Plain (cs : List Char) : Prop where
  quote : '"' ∉ cs
  backslash : '\\' ∉ cs
  lineFeed : '\n' ∉ cs
  carriageReturn : '\r' ∉ cs
  template : ∀ c ∈ ['$', '%'], ¬ [c, '\x7b'] <:+: cs

instance : DecidablePred Plain := fun cs =>
  have : Decidable (∀ c ∈ ['$', '%'], ¬ [c, '\x7b'] <:+: cs) := List.decidableBAll _ _
  decidable_of_iff ('"' ∉ cs ∧ '\\' ∉ cs ∧ '\n' ∉ cs ∧ '\r' ∉ cs ∧
      ∀ c ∈ ['$', '%'], ¬ [c, '\x7b'] <:+: cs)
    ⟨fun ⟨hq, hb, hf, hr, ht⟩ => ⟨hq, hb, hf, hr, ht⟩,
      fun h => ⟨h.quote, h.backslash, h.lineFeed, h.carriageReturn, h.template⟩⟩

section Plain

variable {c : Char} {cs v rest w : List Char} {n skip : Nat}

theorem plain_nil : Plain [] :=
  ⟨List.not_mem_nil, List.not_mem_nil, List.not_mem_nil, List.not_mem_nil, by simp⟩

theorem plain_cons_iff : Plain (c :: cs) ↔
    (c ≠ '"' ∧ c ≠ '\\' ∧ c ≠ '\n' ∧ c ≠ '\r') ∧
      (c = '$' ∨ c = '%' → ¬ ['\x7b'] <+: cs) ∧ Plain cs := by
  have hsign {d : Char} : ¬ [d, '\x7b'] <:+: c :: cs ↔
      (c = d → ¬ ['\x7b'] <+: cs) ∧ ¬ [d, '\x7b'] <:+: cs := by
    rw [List.infix_cons_iff, List.cons_prefix_cons, not_or, not_and, eq_comm]
  constructor
  · intro h
    obtain ⟨hq, hq'⟩ := List.ne_and_not_mem_of_not_mem_cons h.quote
    obtain ⟨hb, hb'⟩ := List.ne_and_not_mem_of_not_mem_cons h.backslash
    obtain ⟨hf, hf'⟩ := List.ne_and_not_mem_of_not_mem_cons h.lineFeed
    obtain ⟨hr, hr'⟩ := List.ne_and_not_mem_of_not_mem_cons h.carriageReturn
    refine ⟨⟨hq.symm, hb.symm, hf.symm, hr.symm⟩, ?_, hq', hb', hf', hr', ?_⟩
    · rintro (rfl | rfl)
      · exact (hsign.mp (h.template _ (by simp))).1 rfl
      · exact (hsign.mp (h.template _ (by simp))).1 rfl
    · intro d hd
      exact (hsign.mp (h.template d hd)).2
  · rintro ⟨⟨hq, hb, hf, hr⟩, hbrace, h⟩
    refine ⟨List.not_mem_cons_of_ne_of_not_mem hq.symm h.quote,
      List.not_mem_cons_of_ne_of_not_mem hb.symm h.backslash,
      List.not_mem_cons_of_ne_of_not_mem hf.symm h.lineFeed,
      List.not_mem_cons_of_ne_of_not_mem hr.symm h.carriageReturn, fun d hd => ?_⟩
    refine hsign.mpr ⟨?_, h.template d hd⟩
    rintro rfl
    exact hbrace (by simpa using hd)

theorem prefix_append_cons_iff {α : Type} {a : α} {xs ys zs : List α} (h : a ∉ xs) :
    xs <+: ys ++ a :: zs ↔ xs <+: ys := by
  induction xs generalizing ys with
  | nil => simp
  | cons x xs ih =>
    obtain ⟨hx, hxs⟩ := not_or.mp (mt List.mem_cons.mpr h)
    cases ys with
    | nil => simp [Ne.symm hx]
    | cons y ys => rw [List.cons_append, List.cons_prefix_cons, List.cons_prefix_cons, ih hxs]

theorem one_le_of_escape? {d : Char} (h : escape? cs = some (d, n)) : 1 ≤ n := by
  unfold escape? at h
  split at h
  all_goals simp at h
  all_goals omega

/-- What is read is never longer than what is written, and as long only where it is the same. -/
theorem length_readChar? (h : readChar? c cs = some (v, n)) : v.length ≤ n + 1 ∧
    (v.length = n + 1 → n = 0 ∧ v = [c] ∧ c ≠ '\\' ∧ c ≠ '\n' ∧ c ≠ '\r' ∧
      (c = '$' ∨ c = '%' → ¬ ['\x7b'] <+: cs)) := by
  unfold readChar? at h
  split_ifs at h with hline hback hsign hbrace hdouble
  · obtain ⟨⟨d, m⟩, hescape, heq⟩ := Option.map_eq_some_iff.mp h
    obtain ⟨rfl, rfl⟩ := Prod.mk.inj heq
    have hpos := one_le_of_escape? hescape
    rw [List.length_singleton]
    omega
  · obtain ⟨rfl, rfl⟩ := Prod.mk.inj (Option.some.inj h)
    rw [List.length_cons, List.length_singleton]
    omega
  · obtain ⟨rfl, rfl⟩ := Prod.mk.inj (Option.some.inj h)
    obtain ⟨hf, hr⟩ := not_or.mp hline
    exact ⟨Nat.le_refl _, fun _ => ⟨rfl, rfl, hback, hf, hr, fun _ => hbrace⟩⟩
  · obtain ⟨rfl, rfl⟩ := Prod.mk.inj (Option.some.inj h)
    obtain ⟨hf, hr⟩ := not_or.mp hline
    exact ⟨Nat.le_refl _, fun _ => ⟨rfl, rfl, hback, hf, hr, fun h => absurd h hsign⟩⟩

/-- A step of reading either is at the closing quote or reads a character and skips what belongs
to it. -/
theorem readFrom_cons_cases (h : readFrom 0 (c :: cs) = some (v, rest)) :
    c = '"' ∧ v = [] ∧ rest = cs ∨
      c ≠ '"' ∧ ∃ value n v', readChar? c cs = some (value, n) ∧
        readFrom n cs = some (v', rest) ∧ v = value ++ v' := by
  rw [readFrom] at h
  split at h
  next hquote =>
    obtain ⟨rfl, rfl⟩ := Prod.mk.inj (Option.some.inj h)
    exact .inl ⟨hquote, rfl, rfl⟩
  next hquote =>
    cases hread : readChar? c cs with
    | none =>
      rw [hread] at h
      cases h
    | some step =>
      obtain ⟨value, n⟩ := step
      rw [hread] at h
      obtain ⟨⟨v', rest'⟩, hrest, heq⟩ := Option.map_eq_some_iff.mp h
      obtain ⟨rfl, rfl⟩ := Prod.mk.inj heq
      exact .inr ⟨hquote, value, n, v', rfl, hrest, rfl⟩

/-- A reading ends at a closing quote. It gives as much as was written only if nothing was skipped
and everything stood for itself. -/
theorem exists_of_readFrom (h : readFrom skip cs = some (v, rest)) :
    ∃ w, cs = w ++ '"' :: rest ∧ v.length + skip ≤ w.length ∧
      (v.length = w.length → v = w ∧ Plain w) := by
  induction cs generalizing skip v with
  | nil => simp [readFrom] at h
  | cons c cs ih =>
    cases skip with
    | succ skip =>
      obtain ⟨w, rfl, hlen, -⟩ := ih h
      refine ⟨c :: w, rfl, ?_, ?_⟩
      · rw [List.length_cons]
        omega
      · rw [List.length_cons]
        omega
    | zero =>
      rcases readFrom_cons_cases h with ⟨rfl, rfl, rfl⟩ | ⟨hquote, value, n, v', hread, hrest, rfl⟩
      · exact ⟨[], rfl, Nat.le_refl _, fun _ => ⟨rfl, plain_nil⟩⟩
      · obtain ⟨w, rfl, hlen, hsame⟩ := ih hrest
        obtain ⟨hvalue, hself⟩ := length_readChar? hread
        refine ⟨c :: w, rfl, ?_, ?_⟩
        · rw [List.length_append, List.length_cons]
          omega
        · -- As long as what was written: then so is each of the two parts, and nothing is skipped.
          intro htotal
          rw [List.length_append, List.length_cons] at htotal
          obtain ⟨rfl, rfl, hb, hf, hr, hbrace⟩ := hself (by omega)
          obtain ⟨rfl, hplain⟩ := hsame (by omega)
          rw [prefix_append_cons_iff (by decide)] at hbrace
          exact ⟨rfl, plain_cons_iff.mpr ⟨⟨hquote, hb, hf, hr⟩, hbrace, hplain⟩⟩

theorem readChar?_of_plain (h : Plain (c :: cs)) (rest : List Char) :
    readChar? c (cs ++ '"' :: rest) = some ([c], 0) := by
  obtain ⟨⟨-, hb, hf, hr⟩, hbrace, hcs⟩ := plain_cons_iff.mp h
  rw [readChar?, if_neg (not_or.mpr ⟨hf, hr⟩), if_neg hb]
  split_ifs with hsign hopen hdouble
  · rw [prefix_append_cons_iff (by decide)] at hopen
    exact absurd hopen (hbrace hsign)
  · have hquote : '"' ∉ [c, '\x7b'] := by
      rcases hsign with rfl | rfl <;> decide
    rw [prefix_append_cons_iff hquote] at hdouble
    exact absurd hdouble.isInfix (hcs.template c (by simpa using hsign))
  · rfl
  · rfl

theorem readFrom_of_plain (h : Plain cs) (rest : List Char) :
    readFrom 0 (cs ++ '"' :: rest) = some (cs, rest) := by
  induction cs with
  | nil => rfl
  | cons c cs ih =>
    obtain ⟨⟨hq, -⟩, -, hcs⟩ := plain_cons_iff.mp h
    rw [List.cons_append, readFrom, if_neg hq, readChar?_of_plain h]
    change (readFrom 0 (cs ++ '"' :: rest)).map _ = _
    rw [ih hcs]
    rfl

/-- A text is read as it is written just if it is plain. -/
theorem readLiteral_iff : readLiteral (cs ++ '"' :: rest) = some (cs, rest) ↔ Plain cs := by
  constructor
  · intro h
    obtain ⟨w, hw, -, hsame⟩ := exists_of_readFrom h
    obtain rfl : cs = w := List.append_cancel_right hw
    exact (hsame rfl).2
  · intro h
    exact readFrom_of_plain h rest

/-- Behind an opening quote the first text is read as itself, up to the quote that was written to
close it. -/
def ReadsAs (s behind : String) : Prop :=
  readLiteral (s ++ "\"" ++ behind).toList = some (s.toList, behind.toList)

theorem readsAs_iff {s behind : String} : ReadsAs s behind ↔ Plain s.toList := by
  have hchars : (s ++ "\"" ++ behind).toList = s.toList ++ '"' :: behind.toList := by simp
  rw [ReadsAs, hchars, readLiteral_iff]

end Plain

namespace Block

/-- The text that a block takes over from a path or a backend, and the beginning of its line. -/
def literal? : Block → Option (String × String)
  | resource _ _ part => some ("  path_part   = ", part)
  | method .. => none
  | integration _ _ uri => some ("  uri                     = ", uri)

def uri? : Block → Option String
  | integration _ _ uri => some uri
  | _ => none

end Block

section Blocks

variable {b : Block} {label s l : String} {ls ls' : List String}

theorem joinWith_line (hls : ls ≠ []) (hls' : ls' ≠ []) : Text.joinWith "\n" (ls ++ l :: ls') =
    Text.joinWith "\n" ls ++ "\n" ++ l ++ "\n" ++ Text.joinWith "\n" ls' := by
  rw [Text.joinWith_append hls (List.cons_ne_nil l ls'), Text.joinWith_cons hls']
  simp only [String.append_assoc]

theorem exists_lines_eq (h : b.literal? = some (label, s)) :
    ∃ ls ls', ls ≠ [] ∧ ls' ≠ [] ∧ b.lines = ls ++ (label ++ quote s) :: ls' := by
  cases b with
  | resource name parent part =>
    obtain ⟨rfl, rfl⟩ := Prod.mk.inj (Option.some.inj h)
    have hpart : Group.line 11 "path_part" (quote part) = "  path_part   = " ++ quote part :=
      line_eq (by decide) _
    refine ⟨[Block.heading (.resource name parent part), Group.line 11 "rest_api_id" restApiId,
      Group.line 11 "parent_id" ((parent.map (reference .resource)).elim rootResourceId idOf)],
      ((parent.map (reference .resource)).map fun r => Group.line 11 "depends_on" (listOf r)).toList
        ++ ["\x7d", "", ""], by simp, by simp, ?_⟩
    rw [← hpart]
    cases parent <;> rfl
  | method res m key => cases h
  | integration res m uri =>
    obtain ⟨rfl, rfl⟩ := Prod.mk.inj (Option.some.inj h)
    have huri : Group.line 23 "uri" (quote uri) = "  uri                     = " ++ quote uri :=
      line_eq (by decide) _
    refine ⟨[Block.heading (.integration res m uri), Group.line 11 "rest_api_id" restApiId,
      Group.line 11 "resource_id" (idOf (reference .resource res)),
      Group.line 11 "http_method" (reference .method (methodName res m) ++ ".http_method"), "",
      Group.line 23 "integration_http_method" (quote m.verb),
      Group.line 23 "type" (quote "HTTP_PROXY")],
      [Group.line 23 "depends_on" (listOf (reference .method (methodName res m))), "\x7d", "", ""],
      by simp, by simp, ?_⟩
    rw [← huri]
    rfl

theorem exists_render_eq (h : b.literal? = some (label, s)) :
    ∃ before after, b.render = before ++ label ++ quote s ++ "\n" ++ after := by
  obtain ⟨ls, ls', hls, hls', hlines⟩ := exists_lines_eq h
  refine ⟨Text.joinWith "\n" ls ++ "\n", Text.joinWith "\n" ls', ?_⟩
  rw [Block.render, hlines, joinWith_line hls hls']
  simp only [String.append_assoc]

/-- The literal of a block stands behind its label at the end of a line. -/
theorem exists_configuration_eq (as cs : List Block) (h : b.literal? = some (label, s)) :
    ∃ before after, b.render = before ++ label ++ quote s ++ "\n" ++ after ∧
      header ++ render (as ++ b :: cs) = header ++ render as ++ before ++ label ++ "\"" ++ s ++
        "\"" ++ ("\n" ++ after ++ render cs) := by
  obtain ⟨before, after, hrender⟩ := exists_render_eq h
  refine ⟨before, after, hrender, ?_⟩
  rw [render_append, render_cons, hrender, quote]
  simp only [String.append_assoc]

end Blocks

section Outline

variable {es : List Endpoint} {b : Block} {bs : List Block} {label s : String}

theorem Plain.of_piece {xs ys : List Char} (h : Plain ys) (hpiece : xs <:+: ys) : Plain xs where
  quote hmem := h.quote (hpiece.subset hmem)
  backslash hmem := h.backslash (hpiece.subset hmem)
  lineFeed hmem := h.lineFeed (hpiece.subset hmem)
  carriageReturn hmem := h.carriageReturn (hpiece.subset hmem)
  template c hc hopen := h.template c hc (hopen.trans hpiece)

/-- A resource block is that of a node, and its literal is the last segment of that node. -/
theorem exists_node_of_mem_outline {name part : String} {parent : Option String}
    (h : .resource name parent part ∈ outline es) :
    ∃ n ∈ (ResourceTree.ofLists (es.map Endpoint.segments)).toList,
      n.name = name ∧ n.lastSegment = part := by
  simp only [outline, List.mem_append, resourceBlocks, List.mem_map] at h
  rcases h with (⟨p, hp, hblock⟩ | ⟨e, -, hblock⟩) | ⟨e, -, hblock⟩
  · obtain ⟨rfl, -, rfl⟩ := Block.resource.inj hblock
    have holds := ResourceTree.holds_ofLists (es.map Endpoint.segments)
    have hmem := (holds.mem_segments
      (ResourceTree.parts_kind (Endpoint.forall_mem_slashFree es))).mpr
        (Path.mem_parts_of_mem_kept hp)
    obtain ⟨n, hn, rfl⟩ := List.mem_map.mp hmem
    have hcoherent := holds.coherent_of_mem hn
    exact ⟨n, hn, hcoherent.name, hcoherent.lastSegment⟩
  · cases hblock
  · cases hblock

theorem filterMap_uri?_outline (es : List Endpoint) :
    (outline es).filterMap Block.uri? = es.map Endpoint.backendUri := by
  have hresources : (resourceBlocks es).filterMap Block.uri? = [] := by
    rw [resourceBlocks, List.filterMap_map]
    exact List.filterMap_eq_nil_iff.mpr fun _ _ => rfl
  have hmethods : (es.map methodOf).filterMap Block.uri? = [] := by
    rw [List.filterMap_map]
    exact List.filterMap_eq_nil_iff.mpr fun _ _ => rfl
  rw [outline, List.filterMap_append, List.filterMap_append, hresources, hmethods,
    List.nil_append, List.nil_append, List.filterMap_map]
  exact congrFun List.filterMap_eq_map es

theorem plain_literal (h : ∀ e ∈ es, Plain e.path.toList ∧ Plain e.backendUri.toList)
    (hb : b ∈ outline es) (hs : b.literal? = some (label, s)) : Plain s.toList := by
  simp only [outline, List.mem_append, resourceBlocks, List.mem_map] at hb
  rcases hb with (⟨p, hp, rfl⟩ | ⟨e, -, rfl⟩) | ⟨e, he, rfl⟩
  · obtain ⟨-, rfl⟩ := Prod.mk.inj (Option.some.inj hs)
    obtain ⟨e, he, hlast⟩ := exists_getLastD_mem_segments (Path.mem_parts_of_mem_kept hp)
    exact (h e he).1.of_piece (Path.infix_of_mem_split hlast)
  · cases hs
  · obtain ⟨-, rfl⟩ := Prod.mk.inj (Option.some.inj hs)
    exact (h e he).2

theorem pieces_configuration (h : ∀ b ∈ bs, ∀ s ∈ b.texts, OneLine s) :
    Text.pieces '\n' (header ++ render bs).toList =
      (["# AWS API Gateway Resources", ""] ++ bs.flatMap fun b => b.entry ++ ["\x7d", ""]).map
        String.toList ++ [[]] := by
  have hheader : header = Text.joinWith "\n" (["# AWS API Gateway Resources", ""] ++ [""]) := by
    decide
  have hlines : ∀ l ∈ ["# AWS API Gateway Resources", ""], '\n' ∉ l.toList := by decide
  rw [hheader, String.toList_append]
  refine (Text.pieces_joinWith_append (by simp) hlines _).trans ?_
  rw [pieces_render h, List.map_append, List.append_assoc]

end Outline

/-- How the paths and the backends of rows stand in the text of their configuration. -/
structure Literals (rows : List Row) (es : List Endpoint) (t : ResourceTree) (bs : List Block)
    (text : String) : Prop where
  text_eq : text = header ++ render bs
  rows : List.Forall₂ Row.Trims (Row.filled rows) es
  uris : bs.filterMap Block.uri? = es.map Endpoint.backendUri
  parts : ∀ name parent part, .resource name parent part ∈ bs →
    ∃ n ∈ t.toList, n.name = name ∧ n.lastSegment = part
  reads_iff : ∀ as b cs, bs = as ++ b :: cs → ∀ label s, b.literal? = some (label, s) →
    ∃ before after, b.render = before ++ label ++ quote s ++ "\n" ++ after ∧
      text = header ++ render as ++ before ++ label ++ "\"" ++ s ++ "\"" ++
        ("\n" ++ after ++ render cs) ∧
      (ReadsAs s ("\n" ++ after ++ render cs) ↔ Plain s.toList)
  plain : (∀ e ∈ es, Plain e.path.toList ∧ Plain e.backendUri.toList) →
    (∀ b ∈ bs, ∀ label s, b.literal? = some (label, s) → Plain s.toList) ∧
    Text.pieces '\n' text.toList = (["# AWS API Gateway Resources", ""] ++
      bs.flatMap fun b => b.entry ++ ["\x7d", ""]).map String.toList ++ [[]]

/-- A path part or a backend is read back from a configuration just if nothing in it has a meaning
of its own between quotes. -/
theorem literals_of_rows {rows : List Row} {es : List Endpoint} {text : String}
    (hrows : Row.validate rows = .ok es) (htext : generate es = .ok text) :
    ∃ t bs, ResourceTree.build es = .ok t ∧ blocks es = .ok bs ∧ Literals rows es t bs text := by
  obtain ⟨hroutable, rfl⟩ := generate_eq_ok_iff.mp htext
  refine ⟨_, _, ResourceTree.build_of_routable hroutable, blocks_of_routable hroutable, rfl, ?_,
    filterMap_uri?_outline es, fun _ _ _ => exists_node_of_mem_outline, ?_, ?_⟩
  · rw [Row.validate_eq_validateBy] at hrows
    obtain ⟨-, -, rfl⟩ := Row.validateBy_eq_ok_iff.mp hrows
    exact Row.forall₂_trims _
  · intro as b cs hbs label s hs
    obtain ⟨before, after, hrender, htext⟩ := exists_configuration_eq as cs hs
    rw [hbs]
    exact ⟨before, after, hrender, htext, readsAs_iff⟩
  · intro hplain
    refine ⟨fun b hb label s hs => plain_literal hplain hb hs, ?_⟩
    have honeLine : ∀ e ∈ es, OneLine e.path ∧ OneLine e.backendUri := by
      intro e he
      exact ⟨(hplain e he).1.lineFeed, (hplain e he).2.lineFeed⟩
    exact pieces_configuration (oneLine_texts_outline honeLine)

theorem literals_of_rows_plain :
    ∃ text t bs, generate [⟨"/a b/$x", .get, "https://a.example/%7B", false⟩] = .ok text ∧
      Literals [⟨" ", .put, "", true⟩, ⟨"/a b/$x ", .get, " https://a.example/%7B", false⟩]
        [⟨"/a b/$x", .get, "https://a.example/%7B", false⟩] t bs text ∧
      ∀ b ∈ bs, ∀ label s, b.literal? = some (label, s) → Plain s.toList := by
  have hrows : Row.validate [⟨" ", .put, "", true⟩,
      ⟨"/a b/$x ", .get, " https://a.example/%7B", false⟩] =
      .ok [⟨"/a b/$x", .get, "https://a.example/%7B", false⟩] := by decide +kernel
  have hroutable : Endpoint.Routable [⟨"/a b/$x", .get, "https://a.example/%7B", false⟩] :=
    Endpoint.routable_iff.mpr (by decide +kernel)
  have htext := generate_eq_ok_iff.mpr ⟨hroutable, rfl⟩
  obtain ⟨t, bs, -, -, hliterals⟩ := literals_of_rows hrows htext
  exact ⟨_, t, bs, htext, hliterals, (hliterals.plain (by decide +kernel)).1⟩

/-- A quote in a path ends the literal of its path part, and a line feed in a backend leaves the
literal of its URI without an end. -/
theorem literals_not_intact :
    Row.validate [⟨"/a\"b", .get, "https://a.example/\n\"", false⟩] =
      .ok [⟨"/a\"b", .get, "https://a.example/\n\"", false⟩] ∧
    ∃ text, generate [⟨"/a\"b", .get, "https://a.example/\n\"", false⟩] = .ok text ∧
      (∃ before behind, text = before ++ "  path_part   = " ++ "\"" ++ "a\"b" ++ "\"" ++ behind ∧
        readLiteral ("a\"b" ++ "\"" ++ behind).toList =
          some ("a".toList, ("b\"" ++ behind).toList)) ∧
      ∃ before behind, text = before ++ "  uri                     = " ++ "\"" ++
          "https://a.example/\n\"" ++ "\"" ++ behind ∧
        readLiteral ("https://a.example/\n\"" ++ "\"" ++ behind).toList = none := by
  have hroutable : Endpoint.Routable [⟨"/a\"b", .get, "https://a.example/\n\"", false⟩] :=
    Endpoint.routable_iff.mpr (by decide +kernel)
  have houtline : outline [⟨"/a\"b", .get, "https://a.example/\n\"", false⟩] =
      [.resource "a_b" none "a\"b", .method "a_b" .get false,
        .integration "a_b" .get "https://a.example/\n\""] := by decide +kernel
  refine ⟨by decide +kernel, _, generate_eq_ok_iff.mpr ⟨hroutable, rfl⟩, ?_, ?_⟩
  · obtain ⟨before, after, -, htext⟩ := exists_configuration_eq (b := .resource "a_b" none "a\"b") []
      [.method "a_b" .get false, .integration "a_b" .get "https://a.example/\n\""] rfl
    rw [houtline]
    refine ⟨_, _, htext, ?_⟩
    simp only [String.toList_append]
    rfl
  · obtain ⟨before, after, -, htext⟩ := exists_configuration_eq
      (b := .integration "a_b" .get "https://a.example/\n\"")
      [.resource "a_b" none "a\"b", .method "a_b" .get false] [] rfl
    rw [houtline]
    refine ⟨_, _, htext, ?_⟩
    simp only [String.toList_append]
    rfl

end ApiGateway.Terraform
