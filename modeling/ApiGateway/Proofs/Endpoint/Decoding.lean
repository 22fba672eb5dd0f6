import ApiGateway.Endpoint.Decoding
import ApiGateway.Proofs.Endpoint.Routable

/-! Endpoints and rows in data. An endpoint is read wherever a row is, as long as nothing is left
out of it; and what is written of either is read back as both, whatever the order of the fields and
whatever stands between them. -/

namespace ApiGateway

theorem bind_eq_ok {ε α β : Type} {x : Except ε α} {g : α → Except ε β} {b : β} :
    x >>= g = .ok b ↔ ∃ a, x = .ok a ∧ g a = .ok b := by
  cases x <;> simp [bind, Except.bind]

theorem mapError_eq_ok {ε ε' α : Type} {x : Except ε α} {g : ε → ε'} {a : α} :
    x.mapError g = .ok a ↔ x = .ok a := by
  cases x <;> simp [Except.mapError]

namespace Row

/-- The fields of a row as they are written. -/
def fields (r : Row) : List (String × Value) :=
  [("path", .text r.path), ("method", .text r.method.verb),
    ("backend_uri", .text r.backendUri), ("api_key_required", .boolean r.apiKeyRequired)]

/-- What a row holds, in the order of its fields. -/
def values (r : Row) : List Value := r.fields.map Prod.snd

/-- The endpoint that says the same as the row, with nothing trimmed. -/
def asEndpoint (r : Row) : Endpoint := ⟨r.path, r.method, r.backendUri, r.apiKeyRequired⟩

end Row

namespace RowDraft

/-- The draft with those fields of a row that are named. -/
def fillIn (r : Row) (names : List String) (p : RowDraft) : RowDraft where
  path := if "path" ∈ names then some r.path else p.path
  method := if "method" ∈ names then some r.method else p.method
  backendUri := if "backend_uri" ∈ names then some r.backendUri else p.backendUri
  apiKeyRequired :=
    if "api_key_required" ∈ names then some r.apiKeyRequired else p.apiKeyRequired

variable {r : Row} {p : RowDraft} {field : String × Value} {fields : List (String × Value)}

theorem read_unknown (h : field.1 ∉ Row.fieldNames) : read p field = .ok p := by
  simp only [Row.fieldNames, List.mem_cons, List.not_mem_nil, or_false, not_or] at h
  obtain ⟨hpath, hmethod, huri, hkey⟩ := h
  unfold read
  split
  · exact absurd ‹_› hpath
  · exact absurd ‹_› hmethod
  · exact absurd ‹_› huri
  · exact absurd ‹_› hkey
  · rfl

theorem read_own (h : field ∈ r.fields) : read p field = .ok (p.fillIn r [field.1]) := by
  simp only [Row.fields, List.mem_cons, List.not_mem_nil, or_false] at h
  rcases h with rfl | rfl | rfl | rfl
  · simp [read, fillIn, Value.asText, bind, Except.bind, pure, Except.pure]
  · simp [read, fillIn, Value.asMethod, Value.asText, Method.ofText?_verb, bind, Except.bind,
      pure, Except.pure]
  · simp [read, fillIn, Value.asText, bind, Except.bind, pure, Except.pure]
  · simp [read, fillIn, Value.asBoolean, bind, Except.bind, pure, Except.pure]

theorem fillIn_nil (r : Row) (p : RowDraft) : p.fillIn r [] = p := by simp [fillIn]

theorem fillIn_unknown {name : String} (h : name ∉ Row.fieldNames) : p.fillIn r [name] = p := by
  simp only [Row.fieldNames, List.mem_cons, List.not_mem_nil, or_false, not_or] at h
  simp [fillIn, eq_comm, h]

theorem fillIn_cons (r : Row) (name : String) (names : List String) (p : RowDraft) :
    p.fillIn r (name :: names) = (p.fillIn r [name]).fillIn r names := by
  have hlater {α : Type} (field : String) (new old : α) :
      (if field ∈ name :: names then new else old) =
        if field ∈ names then new else if field ∈ [name] then new else old := by
    by_cases hnames : field ∈ names <;> simp [hnames]
  simp only [fillIn, hlater]

/-- Whatever the order of the fields, and whatever stands between them, each puts what the row has
of it into the draft. -/
theorem foldlM_read (h : ∀ field ∈ fields, field ∈ r.fields ∨ field.1 ∉ Row.fieldNames)
    (p : RowDraft) : fields.foldlM read p = .ok (p.fillIn r (fields.map Prod.fst)) := by
  induction fields generalizing p with
  | nil => rw [List.map_nil, fillIn_nil]; rfl
  | cons field fields ih =>
    obtain ⟨hfield, hfields⟩ := List.forall_mem_cons.mp h
    have hstep : read p field = .ok (p.fillIn r [field.1]) := by
      rcases hfield with hown | hunknown
      · exact read_own hown
      · rw [fillIn_unknown hunknown, read_unknown hunknown]
    rw [List.foldlM_cons, hstep]
    refine (ih hfields _).trans ?_
    rw [List.map_cons, ← fillIn_cons]

/-- The draft with all fields of a row. -/
def ofRow (r : Row) : RowDraft :=
  ⟨some r.path, some r.method, some r.backendUri, some r.apiKeyRequired⟩

theorem readAll_eq_ofRow (h : ∀ field ∈ fields, field ∈ r.fields ∨ field.1 ∉ Row.fieldNames)
    (hall : Row.fieldNames ⊆ fields.map Prod.fst) : readAll fields = .ok (ofRow r) := by
  simp only [Row.fieldNames, List.cons_subset, List.nil_subset, and_true] at hall
  rw [readAll, foldlM_read h]
  simp [fillIn, ofRow, hall]

theorem row_of_endpoint {e : Endpoint} (h : p.endpoint = .ok e) : p.row = e.row := by
  obtain ⟨path, method, uri, key⟩ := p
  cases path <;> cases method <;> cases uri <;> cases h
  rfl

end RowDraft

section Decoding

variable {f : DataFormat} {r : Row} {e : Endpoint} {v : Value}
  {fields unknown : List (String × Value)}

theorem DataFormat.visit_perm (f : DataFormat) (fields : List (String × Value)) :
    (f.visit fields).Perm fields := by
  unfold visit
  split
  · exact List.mergeSort_perm fields _
  · exact List.Perm.refl _

/-- The fields of a row among unknown ones, in any order. -/
theorem readAll_visit (hfields : fields.Perm (r.fields ++ unknown))
    (hunknown : ∀ u ∈ unknown, u.1 ∉ Row.fieldNames) :
    RowDraft.readAll (f.visit fields) = .ok (.ofRow r) := by
  have hvisit : (f.visit fields).Perm (r.fields ++ unknown) := (f.visit_perm fields).trans hfields
  apply RowDraft.readAll_eq_ofRow
  · intro field hfield
    exact (List.mem_append.mp (hvisit.subset hfield)).imp_right (hunknown field)
  · intro name hname
    have hown : name ∈ (r.fields ++ unknown).map Prod.fst := by
      rw [List.map_append]
      exact List.mem_append_left _ hname
    exact (hvisit.map Prod.fst).mem_iff.mpr hown

theorem Row.ofValue_record (hfields : fields.Perm (r.fields ++ unknown))
    (hunknown : ∀ u ∈ unknown, u.1 ∉ Row.fieldNames) :
    Row.ofValue f (.record fields) = .ok r := by
  rw [Row.ofValue, readAll_visit hfields hunknown]
  rfl

theorem Endpoint.ofValue_record (hfields : fields.Perm (r.fields ++ unknown))
    (hunknown : ∀ u ∈ unknown, u.1 ∉ Row.fieldNames) :
    Endpoint.ofValue f (.record fields) = .ok r.asEndpoint := by
  rw [Endpoint.ofValue, readAll_visit hfields hunknown]
  rfl

theorem DataFormat.checkLength_values (f : DataFormat) (r : Row) :
    f.checkLength Row.fieldNames.length r.values = .ok () :=
  if_neg fun h => Nat.lt_irrefl _ h.2

theorem RowDraft.readAll_values (r : Row) :
    RowDraft.readAll (Row.fieldNames.zip r.values) = .ok (.ofRow r) :=
  readAll_eq_ofRow (fun _ hfield => .inl hfield) (List.Subset.refl _)

theorem Endpoint.ofValue_values (f : DataFormat) (r : Row) :
    Endpoint.ofValue f (.list r.values) = .ok r.asEndpoint := by
  rw [Endpoint.ofValue, RowDraft.readAll_values]
  simp only [bind, Except.bind, f.checkLength_values]
  rfl

/-- What is an endpoint is a row that leaves nothing out. -/
theorem Row.ofValue_of_endpoint (h : Endpoint.ofValue f v = .ok e) :
    Row.ofValue f v = .ok e.row := by
  unfold Endpoint.ofValue at h
  unfold Row.ofValue
  cases v with
  | record fields =>
    obtain ⟨p, hp, h⟩ := bind_eq_ok.mp h
    have hrow : p.row = e.row := RowDraft.row_of_endpoint (mapError_eq_ok.mp h)
    exact bind_eq_ok.mpr ⟨p, hp, congrArg _ hrow⟩
  | list xs =>
    obtain ⟨p, hp, h⟩ := bind_eq_ok.mp h
    obtain ⟨e', he, h⟩ := bind_eq_ok.mp h
    obtain ⟨⟨⟩, hlength, h⟩ := bind_eq_ok.mp h
    obtain rfl : e' = e := Except.ok.inj h
    have hrow : p.row = e'.row := RowDraft.row_of_endpoint (mapError_eq_ok.mp he)
    exact bind_eq_ok.mpr ⟨p, hp, bind_eq_ok.mpr ⟨(), hlength, congrArg _ hrow⟩⟩
  | moment s => cases h
  | null => cases h
  | boolean b => cases h
  | integer n => cases h
  | real d => cases h
  | text s => cases h

theorem Row.perm_fields (r : Row) : r.fields.Perm (r.fields ++ []) := by
  rw [List.append_nil]

theorem Row.ofValue_toValue (f : DataFormat) (r : Row) : Row.ofValue f r.toValue = .ok r :=
  ofValue_record r.perm_fields fun _ hu => absurd hu List.not_mem_nil

theorem Endpoint.ofValue_toValue (f : DataFormat) (r : Row) :
    Endpoint.ofValue f r.toValue = .ok r.asEndpoint :=
  ofValue_record r.perm_fields fun _ hu => absurd hu List.not_mem_nil

theorem Row.fileOfValue_fileToValue (f : DataFormat) (rows : List Row) :
    Row.fileOfValue f (Row.fileToValue rows) = .ok rows := by
  change (rows.map Row.toValue).mapM (Row.ofValue f) = .ok rows
  have hrows : rows.mapM (Row.ofValue f ∘ Row.toValue) = .ok (rows.map id) :=
    Endpoint.mapM_eq_ok fun r _ => Row.ofValue_toValue f r
  rw [List.mapM_map, hrows, List.map_id]

end Decoding

/-- Rows and endpoints in data of one format, read and written. -/
structure DataFormat.Agrees (f : DataFormat) : Prop where
  row_of_endpoint : ∀ v e, Endpoint.ofValue f v = .ok e → Row.ofValue f v = .ok e.row
  written_row : ∀ v r, Row.ofValue f v = .ok r → Row.ofValue f r.toValue = .ok r ∧
    ∃ e, Endpoint.ofValue f r.toValue = .ok e ∧ e.row = r
  written_endpoint : ∀ e, Endpoint.ofValue f e.toValue = .ok e
  any_order : ∀ (e : Endpoint) fields unknown, fields.Perm (e.row.fields ++ unknown) →
    (∀ u ∈ unknown, u.1 ∉ Row.fieldNames) → Endpoint.ofValue f (.record fields) = .ok e
  array : ∀ e, Endpoint.ofValue f (.list [.text e.path, .text e.method.verb, .text e.backendUri,
    .boolean e.apiKeyRequired]) = .ok e
  file : ∀ rows, Row.fileOfValue f (Row.fileToValue rows) = .ok rows

/-- Endpoints and rows agree on what they read, and read what either writes. -/
theorem decoding_agrees (f : DataFormat) : f.Agrees where
  row_of_endpoint _ _ := Row.ofValue_of_endpoint
  written_row _ r _ := ⟨Row.ofValue_toValue f r, r.asEndpoint, Endpoint.ofValue_toValue f r, rfl⟩
  written_endpoint e := Endpoint.ofValue_toValue f e.row
  any_order _ _ _ := Endpoint.ofValue_record
  array e := Endpoint.ofValue_values f e.row
  file := Row.fileOfValue_fileToValue f

theorem decoding_agrees_loose :
    Endpoint.ofValue .json (.list [.text "/a", .text " pUt\n", .text "https://example.com"]) =
      .ok ⟨"/a", .put, "https://example.com", false⟩ ∧
    Row.ofValue .json (.list [.text "/a", .text " pUt\n", .text "https://example.com"]) =
      .ok ⟨"/a", .put, "https://example.com", false⟩ ∧
    Endpoint.ofValue .json (.record [("backend_uri", .text "https://example.com"),
      ("api_key_required", .boolean false), ("zone", .null), ("path", .text "/a"),
      ("method", .text "PUT")]) = .ok ⟨"/a", .put, "https://example.com", false⟩ := by
  have hagrees := decoding_agrees .json
  have harray : Endpoint.ofValue .json
      (.list [.text "/a", .text " pUt\n", .text "https://example.com"]) =
      .ok ⟨"/a", .put, "https://example.com", false⟩ := by rfl
  refine ⟨harray, hagrees.row_of_endpoint _ _ harray, ?_⟩
  have hrotated : List.Perm ([("backend_uri", .text "https://example.com"),
      ("api_key_required", .boolean false), ("zone", .null)] ++
      [("path", .text "/a"), ("method", Value.text "PUT")])
    ([("path", .text "/a"), ("method", Value.text "PUT")] ++
      [("backend_uri", .text "https://example.com"), ("api_key_required", .boolean false),
        ("zone", .null)]) := List.perm_append_comm
  exact hagrees.any_order _ _ [("zone", .null)] hrotated (by decide)

end ApiGateway
