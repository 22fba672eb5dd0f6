import ApiGateway.Proofs.Terraform.References

/-! Which names Terraform takes. Every name of a configuration is made of characters that may stand
in an identifier, but it begins as its path does: with a digit where the path begins with one. -/

namespace ApiGateway

/-- A letter or an underscore, and behind it letters, digits, underscores and hyphens. -/
def Terraform.IsIdentifier (name : String) : Prop :=
  ∃ c cs, name.toList = c :: cs ∧ (c.isAlpha ∨ c = '_') ∧
    ∀ d ∈ cs, d.isAlphanum ∨ d = '_' ∨ d = '-'

/-- The character that the first segment of a path begins with. -/
def Path.initial? (path : String) : Option Char := path.toList.find? (· ≠ '/')

/-- A name that begins as a segment does whose first character is `c`. -/
structure Terraform.NamedFrom (c : Char) (name : String) : Prop where
  ne_empty : name ≠ ""
  isNameChar : ∀ d ∈ name.toList, Path.IsNameChar d
  isIdentifier_iff : IsIdentifier name ↔ ¬ c.isDigit
  digit : c.isDigit → name.toList.head? = some c

namespace Path

section Initial

variable {path s : String} {ss : Segments} {c d : Char}

/-- The first piece that is not empty begins with the first character that is no separator. -/
theorem head?_filter_pieces (sep : Char) (cs : List Char) :
    ((Text.pieces sep cs).filter (· ≠ [])).head?.bind List.head? = cs.find? (· ≠ sep) := by
  induction cs with
  | nil => rfl
  | cons c cs ih =>
    by_cases hc : c = sep
    · rw [Text.pieces, if_pos hc, List.filter_cons_of_neg (by simp), ih,
        List.find?_cons_of_neg (by simpa using hc)]
    · obtain ⟨p, ps, hp⟩ := List.exists_cons_of_ne_nil (Text.pieces_ne_nil sep cs)
      rw [Text.pieces, if_neg hc, hp, List.modifyHead_cons, List.filter_cons_of_pos (by simp),
        List.find?_cons_of_pos (by simpa using hc)]
      rfl

theorem initial?_eq (path : String) :
    initial? path = (split path).head?.bind fun s => s.toList.head? := by
  rw [initial?, ← head?_filter_pieces, split, List.head?_map, Option.bind_map]
  congr 1
  funext piece
  simp

theorem exists_initial? (h : split path ≠ []) : ∃ c, c ∈ initial? path := by
  obtain ⟨s, ss, hs⟩ := List.exists_cons_of_ne_nil h
  have hne : s.toList ≠ [] := by
    have hmem : s ∈ split path := hs ▸ List.mem_cons_self
    exact mt String.toList_eq_nil_iff.mp (ne_empty_of_mem_split hmem)
  obtain ⟨c, cs, hc⟩ := List.exists_cons_of_ne_nil hne
  exact ⟨c, by simp [initial?_eq, hs, hc]⟩

theorem prefix_resourceName (hs : ss.head? = some s) (hc : s.toList.head? = some c) :
    nameChars c <+: (resourceName ss).toList := by
  obtain ⟨rest, rfl⟩ := List.head?_eq_some_iff.mp hs
  obtain ⟨cs, hcs⟩ := List.head?_eq_some_iff.mp hc
  have hjoin : c :: cs <+: (Text.joinWith "_" (s :: rest)).toList := by
    rw [← hcs]
    cases rest with
    | nil => exact List.prefix_rfl
    | cons t ts =>
      rw [Text.joinWith_cons (List.cons_ne_nil t ts), String.append_assoc, String.toList_append]
      exact List.prefix_append _ _
  obtain ⟨more, hmore⟩ := hjoin
  rw [toList_resourceName, ← hmore, List.cons_append, List.flatMap_cons]
  exact List.prefix_append _ _

theorem isAlpha_of_isLower (h : c.isLower) : c.isAlpha := by
  delta Char.isAlpha
  simp [h]

theorem not_isAlpha_of_isDigit (h : c.isDigit) : ¬ (c.isAlpha ∨ c = '_') := by
  have hdigit : 48 ≤ c.toNat ∧ c.toNat ≤ 57 := by
    delta Char.isDigit at h
    simpa [UInt32.le_iff_toNat_le] using h
  rintro (halpha | rfl)
  · have hletter : 65 ≤ c.toNat ∧ c.toNat ≤ 90 ∨ 97 ≤ c.toNat ∧ c.toNat ≤ 122 := by
      delta Char.isAlpha Char.isUpper Char.isLower at halpha
      simpa [UInt32.le_iff_toNat_le] using halpha
    omega
  · exact absurd h (by decide)

/-- Nothing but the digit itself is made of a digit, and a digit of nothing else. -/
theorem nameChars_eq_cons (c : Char) : ∃ d ds, nameChars c = d :: ds ∧
    (c.isDigit → d = c) ∧ (¬ c.isDigit → d.isAlpha ∨ d = '_') := by
  unfold nameChars
  split_ifs with hself hupper hkelvin hdotted
  · refine ⟨c, [], rfl, fun _ => rfl, fun hdigit => ?_⟩
    rcases hself with hlower | hself | hunderscore
    · exact .inl (isAlpha_of_isLower hlower)
    · exact absurd hself hdigit
    · exact .inr hunderscore
  all_goals
    have hdigit : ¬ c.isDigit := fun hdigit => hself (.inr (.inl hdigit))
  · exact ⟨_, [], rfl, fun h => absurd h hdigit,
      fun _ => .inl (isAlpha_of_isLower (isLower_toLower hupper))⟩
  · exact ⟨'k', [], rfl, fun h => absurd h hdigit, fun _ => .inl (by decide)⟩
  · exact ⟨'i', ['_'], rfl, fun h => absurd h hdigit, fun _ => .inl (by decide)⟩
  · exact ⟨'_', [], rfl, fun h => absurd h hdigit, fun _ => .inr rfl⟩

end Initial

end Path

instance : DecidablePred Path.IsNameChar := fun c =>
  inferInstanceAs (Decidable (c.isLower ∨ c.isDigit ∨ c = '_'))

namespace Terraform

/-- The names that an endpoint gives: one for each leading part of its path, and those of its method
and of its integration. -/
inductive Gives (e : Endpoint) : String → Prop
  | resource {p : Segments} (hne : p ≠ []) (hpre : p <+: e.segments) : Gives e (Path.resourceName p)
  | method : Gives e (methodOf e).name
  | integration : Gives e (integrationOf e).name

/-- A name that one of the endpoints gives, and that begins as the path of this endpoint does. -/
def NamedIn (es : List Endpoint) (name : String) : Prop :=
  ∃ e ∈ es, Gives e name ∧ ∃ c ∈ Path.initial? e.path, NamedFrom c name

section NamedFrom

variable {name : String} {s : String} {ss : Segments} {c d : Char}

theorem isAlphanum_or_of_isNameChar (h : Path.IsNameChar d) :
    d.isAlphanum ∨ d = '_' ∨ d = '-' := by
  rcases h with hlower | hdigit | hunderscore
  · simp [Char.isAlphanum, Path.isAlpha_of_isLower hlower]
  · simp [Char.isAlphanum, hdigit]
  · exact .inr (.inl hunderscore)

/-- The first letter alone decides whether such a name is an identifier. -/
theorem namedFrom_of_prefix (hpre : Path.nameChars c <+: name.toList)
    (hname : ∀ d ∈ name.toList, Path.IsNameChar d) : NamedFrom c name := by
  obtain ⟨d, ds, hd, hself, hother⟩ := Path.nameChars_eq_cons c
  obtain ⟨more, hmore⟩ := hpre
  rw [hd, List.cons_append] at hmore
  refine ⟨?_, hname, ⟨?_, fun hdigit => ?_⟩, fun hdigit => ?_⟩
  · rintro rfl
    cases hmore
  · rintro ⟨x, xs, hx, hfirst, -⟩ hdigit
    obtain ⟨rfl, -⟩ := List.cons.inj (hmore.trans hx)
    rw [hself hdigit] at hfirst
    exact Path.not_isAlpha_of_isDigit hdigit hfirst
  · refine ⟨d, ds ++ more, hmore.symm, hother hdigit, fun x hx => ?_⟩
    exact isAlphanum_or_of_isNameChar (hname x (hmore ▸ List.mem_cons_of_mem d hx))
  · rw [← hmore, hself hdigit]
    rfl

/-- What stands behind the name of a resource does not matter to its beginning. -/
theorem namedFrom_resourceName_append (hs : ss.head? = some s) (hc : s.toList.head? = some c)
    {more : String} (hmore : more.toList.all (Path.IsNameChar ·) = true) :
    NamedFrom c (Path.resourceName ss ++ more) := by
  have hbehind : ∀ d ∈ more.toList, Path.IsNameChar d := by
    intro d hd
    exact of_decide_eq_true (List.all_eq_true.mp hmore d hd)
  apply namedFrom_of_prefix
  · rw [String.toList_append]
    exact (Path.prefix_resourceName hs hc).trans (List.prefix_append _ _)
  · rw [String.toList_append]
    exact List.forall_mem_append.mpr ⟨fun d => Path.isNameChar_of_mem, hbehind⟩

end NamedFrom

section Names

variable {es : List Endpoint} {e : Endpoint} {c : Char} {b : Block}

/-- The first segment of an endpoint begins with the first character of its path. -/
theorem exists_head?_segments (h : c ∈ Path.initial? e.path) :
    ∃ s, e.segments.head? = some s ∧ s.toList.head? = some c := by
  rw [Path.initial?_eq] at h
  exact Option.bind_eq_some_iff.mp h

theorem namedFrom_methodOf (h : c ∈ Path.initial? e.path) :
    NamedFrom c (methodOf e).name := by
  obtain ⟨s, hs, hc⟩ := exists_head?_segments h
  have hmore : ("_" ++ e.method.lower).toList.all (Path.IsNameChar ·) = true := by
    cases e.method <;> decide
  have hname : (methodOf e).name = Path.resourceName e.segments ++ ("_" ++ e.method.lower) :=
    String.append_assoc
  rw [hname]
  exact namedFrom_resourceName_append hs hc hmore

theorem namedFrom_integrationOf (h : c ∈ Path.initial? e.path) :
    NamedFrom c (integrationOf e).name := by
  obtain ⟨s, hs, hc⟩ := exists_head?_segments h
  have hmore : ("_" ++ e.method.lower ++ "_integration").toList.all (Path.IsNameChar ·) = true := by
    cases e.method <;> decide
  have hname : (integrationOf e).name =
      Path.resourceName e.segments ++ ("_" ++ e.method.lower ++ "_integration") := by
    change Path.resourceName e.segments ++ "_" ++ e.method.lower ++ "_integration" = _
    simp only [String.append_assoc]
  rw [hname]
  exact namedFrom_resourceName_append hs hc hmore

theorem namedFrom_resourceName {p : Segments} (hne : p ≠ []) (hpre : p <+: e.segments)
    (h : c ∈ Path.initial? e.path) : NamedFrom c (Path.resourceName p) := by
  obtain ⟨s, hs, hc⟩ := exists_head?_segments h
  have hhead : p.head? = some s := by
    obtain ⟨a, q, rfl⟩ := List.exists_cons_of_ne_nil hne
    obtain ⟨rest, hrest⟩ := hpre
    rw [← hrest] at hs
    exact hs
  have hempty : "".toList.all (Path.IsNameChar ·) = true := rfl
  have hnamed := namedFrom_resourceName_append hhead hc hempty
  rwa [String.append_empty] at hnamed

theorem Gives.namedFrom {name : String} (hname : Gives e name) (h : c ∈ Path.initial? e.path) :
    NamedFrom c name := by
  cases hname with
  | resource hne hpre => exact namedFrom_resourceName hne hpre h
  | method => exact namedFrom_methodOf h
  | integration => exact namedFrom_integrationOf h

theorem exists_gives (hb : b ∈ outline es) : ∃ e ∈ es, Gives e b.name := by
  simp only [outline, List.mem_append, resourceBlocks, List.mem_map] at hb
  rcases hb with (⟨p, hp, rfl⟩ | ⟨e, he, rfl⟩) | ⟨e, he, rfl⟩
  · obtain ⟨hne, ss, hss, hpre⟩ := Path.mem_parts.mp (Path.mem_parts_of_mem_kept hp)
    obtain ⟨e, he, rfl⟩ := List.mem_map.mp hss
    exact ⟨e, he, .resource hne hpre⟩
  · exact ⟨e, he, .method⟩
  · exact ⟨e, he, .integration⟩

theorem namedIn_outline (hes : Endpoint.Routable es) (hb : b ∈ outline es) :
    NamedIn es b.name := by
  obtain ⟨e, he, hname⟩ := exists_gives hb
  obtain ⟨c, hc⟩ := Path.exists_initial? (Endpoint.routable_iff.mp hes e he)
  exact ⟨e, he, hname, c, hc, hname.namedFrom hc⟩

theorem isIdentifier_outline_iff (hes : Endpoint.Routable es) :
    (∀ b ∈ outline es, IsIdentifier b.name) ↔
      ∀ e ∈ es, ∀ c ∈ Path.initial? e.path, ¬ c.isDigit := by
  constructor
  · intro h e he c hc
    have hmethod : methodOf e ∈ outline es :=
      List.mem_append_left _ (List.mem_append_right _ (List.mem_map_of_mem he))
    exact (namedFrom_methodOf hc).isIdentifier_iff.mp (h _ hmethod)
  · intro h b hb
    obtain ⟨e, he, -, c, hc, hnamed⟩ := namedIn_outline hes hb
    exact hnamed.isIdentifier_iff.mpr (h e he c hc)

end Names

/-- The names that a configuration declares and refers to. -/
structure NamesFollow (es : List Endpoint) (bs : List Block) : Prop where
  declared : ∀ b ∈ bs, NamedIn es b.name
  referred : ∀ b ∈ bs, ∀ r ∈ b.kind.references, ∀ v, b.attribute? r.1 = some v →
    v = rootResourceId ∨ ∃ k n, v = r.2 (reference k n) ∧ NamedIn es n
  identifiers_iff : (∀ b ∈ bs, IsIdentifier b.name) ↔
    ∀ e ∈ es, ∀ c ∈ Path.initial? e.path, ¬ c.isDigit

/-- A name is an identifier just if the path that it is made from does not begin with a digit. -/
theorem names_follow_paths {es : List Endpoint} {text : String} (h : generate es = .ok text) :
    ∃ bs, blocks es = .ok bs ∧ text = header ++ render bs ∧ NamesFollow es bs := by
  obtain ⟨hes, rfl⟩ := generate_eq_ok_iff.mp h
  refine ⟨outline es, blocks_of_routable hes, rfl, fun b => namedIn_outline hes, ?_,
    isIdentifier_outline_iff hes⟩
  intro b hb r hr v hv
  refine (resolved_outline hes b hb r hr v hv).imp_right ?_
  rintro ⟨a, ha, rfl⟩
  exact ⟨a.kind, a.name, rfl, namedIn_outline hes ha⟩

theorem names_follow_paths_versions : ∃ text bs,
    generate [⟨"v1.2/Über", .get, "https://example.com", false⟩,
      ⟨"//-/2", .put, "https://example.com", true⟩] = .ok text ∧
    blocks [⟨"v1.2/Über", .get, "https://example.com", false⟩,
      ⟨"//-/2", .put, "https://example.com", true⟩] = .ok bs ∧
    ∀ b ∈ bs, IsIdentifier b.name := by
  have hes : Endpoint.Routable [⟨"v1.2/Über", .get, "https://example.com", false⟩,
      ⟨"//-/2", .put, "https://example.com", true⟩] := Endpoint.routable_iff.mpr (by decide +kernel)
  have h := generate_eq_ok_iff.mpr ⟨hes, rfl⟩
  have hversion : Path.initial? "v1.2/Über" = some 'v' := by decide +kernel
  have hhyphen : Path.initial? "//-/2" = some '-' := by decide +kernel
  obtain ⟨bs, hbs, -, hnames⟩ := names_follow_paths h
  exact ⟨_, bs, h, hbs, hnames.identifiers_iff.mpr (by simp [hversion, hhyphen])⟩

/-- The resource of a segment that begins with a digit has no identifier for its name. -/
theorem number_led_not_isIdentifier : ∃ text bs,
    generate [⟨"/1", .get, "https://example.com", false⟩] = .ok text ∧
    blocks [⟨"/1", .get, "https://example.com", false⟩] = .ok bs ∧ text = header ++ render bs ∧
    ∃ b ∈ bs, b.name = "1" ∧ ¬ IsIdentifier b.name := by
  have hes : Endpoint.Routable [⟨"/1", .get, "https://example.com", false⟩] :=
    Endpoint.routable_iff.mpr (by decide +kernel)
  have houtline : outline [⟨"/1", .get, "https://example.com", false⟩] =
      [.resource "1" none "1", .method "1" .get false,
        .integration "1" .get "https://example.com"] := by decide +kernel
  have hname : ¬ IsIdentifier "1" := by
    rintro ⟨c, cs, hchars, hfirst, -⟩
    obtain ⟨rfl, -⟩ := List.cons.inj hchars
    exact absurd hfirst (by decide)
  exact ⟨_, _, generate_eq_ok_iff.mpr ⟨hes, rfl⟩, blocks_of_routable hes, rfl,
    .resource "1" none "1", houtline ▸ List.mem_cons_self, rfl, hname⟩

end Terraform
end ApiGateway
