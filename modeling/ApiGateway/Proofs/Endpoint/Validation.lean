import ApiGateway.Endpoint.Validation
import ApiGateway.Proofs.Text.Blank
import Mathlib.Data.List.Forall2

/-! Validation of rows, whatever test a backend has to pass. Blank rows leave no trace, not even in
the position of an error, and rows that have been validated are valid as they are. -/

namespace ApiGateway

theorem RowsError.message_injective : Function.Injective RowsError.message := by
  have hfirst (n : Nat) : noUsableRow.message ≠ (badBackendUri n).message := by
    intro h
    have hchars := congrArg String.toList h
    simp [message] at hchars
  intro a b h
  cases a with
  | noUsableRow =>
    cases b with
    | noUsableRow => rfl
    | badBackendUri n => exact absurd h (hfirst n)
  | badBackendUri m =>
    cases b with
    | noUsableRow => exact absurd h.symm (hfirst m)
    | badBackendUri n =>
      have hdigits : toString m = toString n := by
        rwa [message, message, String.append_left_inj, String.append_right_inj] at h
      rw [Nat.toString_eq_ofList_toDigits, Nat.toString_eq_ofList_toDigits,
        String.ofList_inj] at hdigits
      have hnumber := congrArg (Nat.ofDigitChars 10 · 0) hdigits
      rw [Nat.ofDigitChars_ten_toDigits, Nat.ofDigitChars_ten_toDigits] at hnumber
      rw [hnumber]

namespace Row

/-- Validation with the test of a backend left open. -/
def validateBy (accepts : String → Bool) (rows : List Row) : Except RowsError (List Endpoint) :=
  let es := usable rows
  if es = [] then .error .noUsableRow
  else
    match es.findIdx? fun e => !accepts e.backendUri with
    | some i => .error (.badBackendUri (i + 1))
    | none => .ok es

theorem validate_eq_validateBy : validate = validateBy Uri.isAbsolute := rfl

/-- A row that has no path or no backend. -/
def IsBlank (r : Row) : Prop := Text.Blank r.path ∨ Text.Blank r.backendUri

instance : DecidablePred IsBlank := fun r =>
  inferInstanceAs (Decidable (Text.Blank r.path ∨ Text.Blank r.backendUri))

/-- The rows that are not passed over. -/
def filled (rows : List Row) : List Row := rows.filter fun r => ¬ r.IsBlank

/-- The endpoint says what the row says, without white space around its path and its backend. -/
structure Trims (r : Row) (e : Endpoint) : Prop where
  path : Text.Trims r.path e.path
  method : e.method = r.method
  backendUri : Text.Trims r.backendUri e.backendUri
  apiKeyRequired : e.apiKeyRequired = r.apiKeyRequired

/-- The backend does not pass the test when the white space around it is gone. -/
def Refused (accepts : String → Bool) (r : Row) : Prop :=
  ∃ uri, Text.Trims r.backendUri uri ∧ accepts uri = false

def FailsWith (result : Except RowsError (List Endpoint)) (message : String) : Prop :=
  ∃ err, result = .error err ∧ err.message = message

/-- How rows are validated by a test of their backends. -/
structure Validates (accepts : String → Bool)
    (validate : List Row → Except RowsError (List Endpoint)) : Prop where
  no_row : ∀ rows, FailsWith (validate rows)
    "Please add at least one valid endpoint with both endpoint path and backend URI" ↔
    filled rows = []
  bad_row : ∀ rows (n : Nat), FailsWith (validate rows) ("Endpoint " ++ toString n ++
    ": Please enter a valid backend URI (e.g., https://api.example.com/path)") ↔
    ∃ before r after, filled rows = before ++ r :: after ∧
      (∀ q ∈ before, ¬ q.Refused accepts) ∧ r.Refused accepts ∧ n = before.length + 1
  some_bad_row : ∀ rows, (∃ n : Nat, FailsWith (validate rows) ("Endpoint " ++ toString n ++
    ": Please enter a valid backend URI (e.g., https://api.example.com/path)")) ↔
    ∃ r ∈ filled rows, r.Refused accepts
  succeeds : ∀ rows, (∃ es, validate rows = .ok es) ↔
    filled rows ≠ [] ∧ ∀ r ∈ filled rows, ¬ r.Refused accepts
  endpoints : ∀ rows es, validate rows = .ok es → List.Forall₂ Trims (filled rows) es
  blank_rows : ∀ before blanks after, (∀ r ∈ blanks, r.IsBlank) →
    validate (before ++ blanks ++ after) = validate (before ++ after)
  again : ∀ rows es, validate rows = .ok es → validate (es.map Endpoint.row) = .ok es

section Rows

variable {accepts : String → Bool} {rows before blanks after : List Row} {r : Row} {e : Endpoint}

theorem isUsable_iff : r.isUsable ↔ ¬ r.IsBlank := by
  simp only [isUsable, IsBlank, Text.blank_iff, Bool.and_eq_true, decide_eq_true_eq, not_or, ne_eq]

theorem usable_eq (rows : List Row) : usable rows = (filled rows).map endpoint := by
  have hfilter : rows.filter isUsable = filled rows :=
    List.filter_congr fun r _ => by rw [Bool.eq_iff_iff, isUsable_iff, decide_eq_true_iff]
  rw [usable, hfilter]

theorem trims_iff : r.Trims e ↔ e = r.endpoint := by
  constructor
  · intro h
    have hpath := Text.trims_iff.mp h.path
    have huri := Text.trims_iff.mp h.backendUri
    cases e
    rw [endpoint, ← hpath, ← h.method, ← huri, ← h.apiKeyRequired]
  · rintro rfl
    exact ⟨Text.trims_trim _, rfl, Text.trims_trim _, rfl⟩

theorem refused_iff : r.Refused accepts ↔ accepts (Text.trim r.backendUri) = false := by
  unfold Refused
  constructor
  · rintro ⟨uri, htrims, huri⟩
    rwa [Text.trims_iff.mp htrims] at huri
  · intro h
    exact ⟨_, Text.trims_trim _, h⟩

/-- The row that the endpoint of a row would be read from. -/
def trimmed (r : Row) : Row := r.endpoint.row

theorem endpoint_trimmed (r : Row) : r.trimmed.endpoint = r.endpoint := by
  simp only [trimmed, endpoint, Endpoint.row, Text.trim_trim]

theorem isBlank_trimmed : r.trimmed.IsBlank ↔ r.IsBlank := by
  simp only [IsBlank, Text.blank_iff, trimmed, endpoint, Endpoint.row, Text.trim_trim]

theorem refused_trimmed : r.trimmed.Refused accepts ↔ r.Refused accepts := by
  simp only [refused_iff, trimmed, endpoint, Endpoint.row, Text.trim_trim]

theorem filled_trimmed (rows : List Row) :
    filled ((filled rows).map trimmed) = (filled rows).map trimmed := by
  apply List.filter_eq_self.mpr
  intro q hq
  obtain ⟨r, hr, rfl⟩ := List.mem_map.mp hq
  have hfilled : ¬ r.IsBlank := of_decide_eq_true (List.mem_filter.mp hr).2
  exact decide_eq_true (mt isBlank_trimmed.mp hfilled)

theorem filled_blanks (h : ∀ r ∈ blanks, r.IsBlank) :
    filled (before ++ blanks ++ after) = filled (before ++ after) := by
  have hnone : blanks.filter (fun r => ¬ r.IsBlank) = [] :=
    List.filter_eq_nil_iff.mpr fun r hr => by simpa using h r hr
  simp only [filled, List.filter_append, hnone, List.append_nil]

end Rows

section Validation

variable {accepts : String → Bool} {rows before blanks after : List Row} {es : List Endpoint}
  {n : Nat}

theorem findIdx?_eq_some_iff_append {α : Type} {p : α → Bool} {xs : List α} {i : Nat} :
    xs.findIdx? p = some i ↔ ∃ before x after, xs = before ++ x :: after ∧
      (∀ y ∈ before, p y = false) ∧ p x = true ∧ i = before.length := by
  constructor
  · intro h
    obtain ⟨hi, hx, hbefore⟩ := List.findIdx?_eq_some_iff_getElem.mp h
    have hsplit : xs = xs.take i ++ xs[i] :: xs.drop (i + 1) := by simp
    refine ⟨xs.take i, xs[i], xs.drop (i + 1), hsplit, ?_, hx, ?_⟩
    · intro y hy
      obtain ⟨j, hj, rfl⟩ := List.mem_iff_getElem.mp hy
      rw [List.length_take] at hj
      rw [List.getElem_take]
      exact Bool.eq_false_iff.mpr (hbefore j (by omega))
    · rw [List.length_take]
      omega
  · rintro ⟨before, x, after, rfl, hbefore, hx, rfl⟩
    rw [List.findIdx?_append, List.findIdx?_eq_none_iff.mpr hbefore, List.findIdx?_cons, if_pos hx]
    simp

/-- All that validation looks at is the rows that are not passed over. -/
theorem validateBy_eq (accepts : String → Bool) (rows : List Row) : validateBy accepts rows =
    if filled rows = [] then .error .noUsableRow
    else match (filled rows).findIdx? fun r => !accepts (Text.trim r.backendUri) with
      | some i => .error (.badBackendUri (i + 1))
      | none => .ok ((filled rows).map endpoint) := by
  have hnil : (filled rows).map endpoint = [] ↔ filled rows = [] := List.map_eq_nil_iff
  rw [validateBy, usable_eq, List.findIdx?_map]
  simp only [hnil]
  rfl

theorem validateBy_eq_noUsableRow_iff :
    validateBy accepts rows = .error .noUsableRow ↔ filled rows = [] := by
  rw [validateBy_eq]
  by_cases hrows : filled rows = []
  · simp [hrows]
  · rw [if_neg hrows]
    cases (filled rows).findIdx? fun r => !accepts (Text.trim r.backendUri) <;> simp [hrows]

theorem validateBy_eq_badBackendUri_iff :
    validateBy accepts rows = .error (.badBackendUri n) ↔
      ∃ before r after, filled rows = before ++ r :: after ∧
        (∀ q ∈ before, ¬ q.Refused accepts) ∧ r.Refused accepts ∧ n = before.length + 1 := by
  have hfirst : validateBy accepts rows = .error (.badBackendUri n) ↔
      ∃ i, (filled rows).findIdx? (fun r => !accepts (Text.trim r.backendUri)) = some i ∧
        n = i + 1 := by
    rw [validateBy_eq]
    by_cases hrows : filled rows = []
    · simp [hrows]
    · rw [if_neg hrows]
      cases (filled rows).findIdx? fun r => !accepts (Text.trim r.backendUri) with
      | some i => simp [eq_comm]
      | none => simp
  rw [hfirst]
  simp only [findIdx?_eq_some_iff_append, refused_iff, Bool.not_eq_false', Bool.not_eq_true',
    Bool.not_eq_false]
  constructor
  · rintro ⟨_, ⟨before, r, after, hrows, hbefore, hr, rfl⟩, hn⟩
    exact ⟨before, r, after, hrows, hbefore, hr, hn⟩
  · rintro ⟨before, r, after, hrows, hbefore, hr, hn⟩
    exact ⟨_, ⟨before, r, after, hrows, hbefore, hr, rfl⟩, hn⟩

theorem validateBy_eq_ok_iff : validateBy accepts rows = .ok es ↔
    filled rows ≠ [] ∧ (∀ r ∈ filled rows, ¬ r.Refused accepts) ∧
      es = (filled rows).map endpoint := by
  have hnone : (filled rows).findIdx? (fun r => !accepts (Text.trim r.backendUri)) = none ↔
      ∀ r ∈ filled rows, ¬ r.Refused accepts := by
    simp only [List.findIdx?_eq_none_iff, refused_iff, Bool.not_eq_false', Bool.not_eq_false]
  rw [validateBy_eq, ← hnone]
  by_cases hrows : filled rows = []
  · simp [hrows]
  · rw [if_neg hrows]
    cases (filled rows).findIdx? fun r => !accepts (Text.trim r.backendUri) with
    | some i => simp
    | none => simp [hrows, eq_comm]

/-- The first of the rows that are refused ends the validation. -/
theorem exists_first_refused (h : ∃ r ∈ filled rows, r.Refused accepts) :
    ∃ before r after, filled rows = before ++ r :: after ∧
      (∀ q ∈ before, ¬ q.Refused accepts) ∧ r.Refused accepts := by
  obtain ⟨r, hr, hrefused⟩ := h
  have hsome : ((filled rows).find? fun r => !accepts (Text.trim r.backendUri)).isSome := by
    rw [List.find?_isSome]
    exact ⟨r, hr, by rw [refused_iff.mp hrefused]; rfl⟩
  obtain ⟨q, hq⟩ := Option.isSome_iff_exists.mp hsome
  obtain ⟨hq, before, after, hrows, hbefore⟩ := List.find?_eq_some_iff_append.mp hq
  refine ⟨before, q, after, hrows, fun p hp => ?_, refused_iff.mpr (by simpa using hq)⟩
  simpa [refused_iff] using hbefore p hp

theorem failsWith_message_iff {result : Except RowsError (List Endpoint)} {err : RowsError} :
    FailsWith result err.message ↔ result = .error err := by
  constructor
  · rintro ⟨err', h, hmessage⟩
    rw [h, RowsError.message_injective hmessage]
  · intro h
    exact ⟨err, h, rfl⟩

theorem exists_failsWith_iff : (∃ n : Nat, FailsWith (validateBy accepts rows)
    (RowsError.badBackendUri n).message) ↔ ∃ r ∈ filled rows, r.Refused accepts := by
  simp only [failsWith_message_iff, validateBy_eq_badBackendUri_iff]
  constructor
  · rintro ⟨n, before, r, after, hrows, -, hr, -⟩
    exact ⟨r, hrows ▸ by simp, hr⟩
  · intro h
    obtain ⟨before, r, after, hrows, hbefore, hr⟩ := exists_first_refused h
    exact ⟨before.length + 1, before, r, after, hrows, hbefore, hr, rfl⟩

theorem exists_validateBy_iff : (∃ es, validateBy accepts rows = .ok es) ↔
    filled rows ≠ [] ∧ ∀ r ∈ filled rows, ¬ r.Refused accepts := by
  simp only [validateBy_eq_ok_iff]
  constructor
  · rintro ⟨-, hne, haccepted, -⟩
    exact ⟨hne, haccepted⟩
  · rintro ⟨hne, haccepted⟩
    exact ⟨_, hne, haccepted, rfl⟩

theorem forall₂_trims (rows : List Row) : List.Forall₂ Trims rows (rows.map endpoint) := by
  rw [List.forall₂_map_right_iff, List.forall₂_same]
  intro r _
  exact trims_iff.mpr rfl

theorem validateBy_rows (h : validateBy accepts rows = .ok es) :
    validateBy accepts (es.map Endpoint.row) = .ok es := by
  obtain ⟨hne, haccepted, rfl⟩ := validateBy_eq_ok_iff.mp h
  -- The endpoints are read again from trimmed rows, all of which are kept.
  have hrows : ((filled rows).map endpoint).map Endpoint.row = (filled rows).map trimmed :=
    List.map_map
  rw [hrows]
  apply validateBy_eq_ok_iff.mpr
  rw [filled_trimmed]
  refine ⟨mt List.map_eq_nil_iff.mp hne, ?_, ?_⟩
  · intro q hq
    obtain ⟨r, hr, rfl⟩ := List.mem_map.mp hq
    exact mt refused_trimmed.mp (haccepted r hr)
  · rw [List.map_map]
    exact List.map_congr_left fun r _ => (endpoint_trimmed r).symm

theorem validates_validateBy (accepts : String → Bool) : Validates accepts (validateBy accepts) where
  no_row _ := failsWith_message_iff.trans validateBy_eq_noUsableRow_iff
  bad_row _ _ := failsWith_message_iff.trans validateBy_eq_badBackendUri_iff
  some_bad_row _ := exists_failsWith_iff
  succeeds _ := exists_validateBy_iff
  endpoints rows es h := by
    obtain ⟨-, -, rfl⟩ := validateBy_eq_ok_iff.mp h
    exact forall₂_trims (filled rows)
  blank_rows before blanks after h := by
    rw [validateBy_eq, validateBy_eq, filled_blanks h]
  again _ _ h := validateBy_rows h

end Validation

/-- Rows are validated by the test for absolute URIs, and any other test would be used alike. -/
theorem rows_validated :
    Validates Uri.isAbsolute validate ∧ ∀ accepts, Validates accepts (validateBy accepts) := by
  rw [validate_eq_validateBy]
  exact ⟨validates_validateBy Uri.isAbsolute, validates_validateBy⟩

/-- The bad row is the last of four, but the second of those that are not passed over. -/
theorem rows_validated_mixed :
    FailsWith (validate ([⟨"/a", .get, "\thttps://a.example ", true⟩] ++
        [⟨" ", .put, "no uri", false⟩, ⟨"/c", .get, "", true⟩] ++ [⟨"/b", .post, "no uri ", false⟩]))
      "Endpoint 2: Please enter a valid backend URI (e.g., https://api.example.com/path)" ∧
    validate [⟨"/a", .get, "https://a.example", true⟩] =
      .ok [⟨"/a", .get, "https://a.example", true⟩] := by
  obtain ⟨habsolute, -⟩ := rows_validated
  constructor
  · rw [habsolute.blank_rows _ _ _ (by decide +kernel)]
    refine (habsolute.bad_row _ 2).mpr ⟨[⟨"/a", .get, "\thttps://a.example ", true⟩],
      ⟨"/b", .post, "no uri ", false⟩, [], by decide +kernel, ?_, ?_, rfl⟩
    · rw [List.forall_mem_singleton, refused_iff]
      decide +kernel
    · exact refused_iff.mpr (by decide +kernel)
  · exact habsolute.again [⟨"/a ", .get, "\thttps://a.example ", true⟩]
      [⟨"/a", .get, "https://a.example", true⟩] (by decide +kernel)

end Row
end ApiGateway
