import Bindery.Config.Introspection
import Bindery.Proofs.Schema.Parsing

/-!
# The data of a response

A response is read twice: first as a whole, where its data are kept as they are written, and then its data.

## Main results

- `Envelope.decodeText_data` — the data of a response are kept as they are written
- `HttpResponse.accepts_accept` — what is made of a response
- `HttpResponse.of_interpret` — when a response gives something, and what
- `HttpResponse.toOption_interpret` — the schema in a response
- `Endpoint.toOption_fetch` — the schema of a server
-/

namespace Bindery

open Json

/-- The data of a response are kept as they are written. -/
theorem Envelope.decodeText_data {data : Json} {text : List Char}
    (hdoc : Document (.object [("data", data)]) text)
    (hdepth : (Json.object [("data", data)]).depth ≤ Scan.levelLimit) :
    ∃ cs, Spells data cs ∧ decodeText Envelope.decode default text = .ok ⟨cs, []⟩ := by
  obtain ⟨ms, e, hread, hmembers⟩ := hdoc.read_object hdepth
  cases hmembers with
  | @cons _ m _ _ hm hrest =>
    cases hrest
    obtain ⟨name, v⟩ := m
    obtain ⟨hname, cs, hspells, htells⟩ := hm
    obtain rfl : name = "data" := hname
    -- the data are only checked for their form, and their text is the one that was scanned
    have hform := checkForm_eq_ok htells.value true (Pointer.member [] "data")
    have hdata : Envelope.decode [] default (.object [("data", v)] .closed e) = .ok ⟨v.rawText, []⟩ := by
      change ((checkForm true (Pointer.member [] "data") v).map _ >>= _) = _
      rw [hform]
      rfl
    refine ⟨cs, hspells, ?_⟩
    rw [decodeText, hread]
    simp only [hdata, htells.text]
    rfl

/-- A response that is nested too deep has no parts. -/
theorem Envelope.toOption_decodeText_tooDeep {members : List (String × Json)} {text : List Char}
    (hdoc : Document (.object members) text)
    (hdepth : Scan.levelLimit < (Json.object members).depth) :
    (decodeText Envelope.decode default text).toOption = none := by
  obtain ⟨ms, stop, e, hread, hstop⟩ := hdoc.read_object_tooDeep hdepth
  -- the object has no end, whatever becomes of its members
  have hmembers := fun known => toOption_decodeMembers_unclosed known [] hstop (default : Envelope) ms
  rw [decodeText, hread, toOption_bind]
  exact congrArg (Option.bind · _) (hmembers _)

theorem isVoid_object {members : List (String × Json)} {cs : List Char}
    (h : Spells (.object members) cs) : isVoid cs = false := by
  obtain ⟨entries, body, -, rfl, -⟩ := h.exists_entries
  rfl

theorem faithful_schemaMember : ∀ k ∈ [Member.of "__schema" id (fun x _ => x) Schema.decode],
    Faithful k.decode :=
  List.forall_mem_singleton.mpr (faithful_member Schema.undoes_decode.faithful _ _ _)

/-- A schema is decoded from the member of an object, over the former one. -/
theorem Value.toOption_decode_schema (p : Pointer) (s : Schema) (v : Scan) :
    (Value.decode p (.schema s) v).toOption =
      (v.json?.bind (onJson (decodeRecord
        [.of "__schema" id (fun x _ => x) Schema.decode]) s)).map Value.schema := by
  rw [← faithful_decodeRecord faithful_schemaMember p s v, ← toOption_map]
  rfl

/-- The schema in the data of a response. -/
theorem toOption_decodeData {j : Json} {cs : List Char} (h : Spells (.object [("__schema", j)]) cs)
    (hdepth : (Json.object [("__schema", j)]).depth ≤ Scan.levelLimit) :
    (decodeData cs (.pointer (.schema default))).toOption =
      (onJson Schema.decode default j).map Value.schema := by
  obtain ⟨v, hread, hv⟩ := h.document.read hdepth
  have hj : onJson (decodeRecord [.of "__schema" id (fun x _ => x) Schema.decode]) default
      (.object [("__schema", j)]) = onJson Schema.decode default j :=
    (onJson_decodeRecord_single faithful_schemaMember Schema.undoes_decode.faithful "__schema" rfl
      default j).trans Option.map_id'
  rw [decodeData, toOption_mapError, decodeText, hread, toOption_bind, Value.toOption_decode_schema, hv,
    Option.bind_some, hj]
  cases onJson Schema.decode default j <;> rfl

/-! ### What is made of a response -/

namespace HttpResponse

variable {r : HttpResponse}

/-- The status is a success. -/
def IsSuccess (r : HttpResponse) : Prop :=
  200 ≤ r.status ∧ r.status < 300

/-- The body is decoded to these parts. -/
def Carries (r : HttpResponse) (e : Envelope) : Prop :=
  decodeText Envelope.decode default (charsOf r.body) = .ok e

/-- What a response reports if it is a failure or tells errors. A failure has its body, and the errors if the
body is decoded. -/
inductive Reports (r : HttpResponse) : ErrorResponse → Prop where
  | failure {e : Envelope} (hstatus : ¬r.IsSuccess) (hbody : r.Carries e) :
      Reports r ⟨r.status, r.body, e.errors⟩
  | garbled (hstatus : ¬r.IsSuccess) (hbody : ∀ e, ¬r.Carries e) : Reports r ⟨r.status, r.body, []⟩
  | errors {e : Envelope} (hstatus : r.IsSuccess) (hbody : r.Carries e) (herrors : e.errors ≠ []) :
      Reports r ⟨r.status, [], e.errors⟩

/-- What can be made of a response. -/
inductive Accepts (r : HttpResponse) : Except PostError Envelope → Prop where
  | unreadable {reason : String} (hbroken : r.broken = some reason) : Accepts r (.error (.unreadable reason))
  | response {x : ErrorResponse} (hbroken : r.broken = none) (hreports : r.Reports x) :
      Accepts r (.error (.response x))
  | undecodable {fault : Fault} (hbroken : r.broken = none) (hstatus : r.IsSuccess)
      (hbody : ∀ e, ¬r.Carries e) : Accepts r (.error (.undecodable fault))
  | parts {e : Envelope} (hbroken : r.broken = none) (hstatus : r.IsSuccess) (hbody : r.Carries e)
      (herrors : e.errors = []) : Accepts r (.ok e)

theorem isFailure_iff (r : HttpResponse) :
    (decide (r.status < 200) || decide (300 ≤ r.status)) = true ↔ ¬r.IsSuccess := by
  simp only [Bool.or_eq_true, decide_eq_true_eq, IsSuccess]
  omega

theorem accept_of_not_isSuccess (hbroken : r.broken = none) (h : ¬r.IsSuccess) :
    r.accept = .error (.response ⟨r.status, r.body,
      ((decodeText Envelope.decode default (charsOf r.body)).toOption.map (·.errors)).getD []⟩) := by
  unfold accept
  rw [hbroken]
  dsimp only
  rw [if_pos (r.isFailure_iff.mpr h)]
  rfl

theorem accept_of_isSuccess (hbroken : r.broken = none) (h : r.IsSuccess) :
    r.accept = (decodeText Envelope.decode default (charsOf r.body)).mapError .undecodable >>=
      fun e => if e.errors.isEmpty then .ok e else .error (.response ⟨r.status, [], e.errors⟩) := by
  unfold accept
  rw [hbroken]
  dsimp only
  rw [if_neg fun hfailure => r.isFailure_iff.mp hfailure h]
  cases decodeText Envelope.decode default (charsOf r.body) with
  | error => rfl
  | ok e =>
    change (if (!e.errors.isEmpty) = true then _ else _) = if e.errors.isEmpty = true then _ else _
    cases e.errors.isEmpty <;> rfl

theorem Reports.accept_eq {x : ErrorResponse} (h : r.Reports x) (hbroken : r.broken = none) :
    r.accept = .error (.response x) := by
  cases h with
  | failure hstatus hbody => rw [accept_of_not_isSuccess hbroken hstatus, hbody]; rfl
  | garbled hstatus hbody =>
    rw [accept_of_not_isSuccess hbroken hstatus]
    cases henvelope : decodeText Envelope.decode default (charsOf r.body) with
    | error => rfl
    | ok e => exact absurd henvelope (hbody e)
  | @errors e hstatus hbody herrors =>
    rw [accept_of_isSuccess hbroken hstatus, hbody]
    exact if_neg (by simpa using herrors)

theorem accept_of_carries {e : Envelope} (hbroken : r.broken = none) (hstatus : r.IsSuccess)
    (hbody : r.Carries e) (herrors : e.errors = []) : r.accept = .ok e := by
  rw [accept_of_isSuccess hbroken hstatus, hbody]
  exact if_pos (by simpa using herrors)

theorem accepts_accept (r : HttpResponse) : r.Accepts r.accept := by
  cases hbroken : r.broken with
  | some reason =>
    have haccept : r.accept = .error (.unreadable reason) := by
      unfold accept
      rw [hbroken]
      rfl
    rw [haccept]
    exact .unreadable hbroken
  | none =>
    by_cases hstatus : r.IsSuccess
    · cases hbody : decodeText Envelope.decode default (charsOf r.body) with
      | error fault =>
        rw [accept_of_isSuccess hbroken hstatus, hbody]
        exact .undecodable hbroken hstatus fun e he => by cases hbody.symm.trans he
      | ok e =>
        by_cases herrors : e.errors = []
        · rw [accept_of_carries hbroken hstatus hbody herrors]
          exact .parts hbroken hstatus hbody herrors
        · have hreports := Reports.errors hstatus hbody herrors
          rw [hreports.accept_eq hbroken]
          exact .response hbroken hreports
    · have hreports : ∃ x, r.Reports x := by
        by_cases hbody : ∃ e, r.Carries e
        · exact hbody.elim fun e he => ⟨_, .failure hstatus he⟩
        · exact ⟨_, .garbled hstatus (not_exists.mp hbody)⟩
      obtain ⟨x, hx⟩ := hreports
      rw [hx.accept_eq hbroken]
      exact .response hbroken hx

theorem accept_eq_ok_iff {e : Envelope} :
    r.accept = .ok e ↔ r.broken = none ∧ r.IsSuccess ∧ r.Carries e ∧ e.errors = [] := by
  constructor
  · intro h
    have haccepts := r.accepts_accept
    rw [h] at haccepts
    cases haccepts with
    | parts hbroken hstatus hbody herrors => exact ⟨hbroken, hstatus, hbody, herrors⟩
  · rintro ⟨hbroken, hstatus, hbody, herrors⟩
    exact accept_of_carries hbroken hstatus hbody herrors

theorem accept_eq_response_iff {x : ErrorResponse} :
    r.accept = .error (.response x) ↔ r.broken = none ∧ r.Reports x := by
  constructor
  · intro h
    have haccepts := r.accepts_accept
    rw [h] at haccepts
    cases haccepts with
    | response hbroken hreports => exact ⟨hbroken, hreports⟩
  · rintro ⟨hbroken, hreports⟩
    exact hreports.accept_eq hbroken

theorem isSuccess_of_status (hstatus : r.status = 200) : r.IsSuccess := by
  unfold IsSuccess
  omega

/-- A response without errors is as good as its data. -/
theorem toOption_interpret_of_data {body : Octets} {cs : List Char}
    (henvelope : decodeText Envelope.decode default (charsOf body) = .ok ⟨cs, []⟩)
    (hvoid : isVoid cs = false) (target : Value) :
    (HttpResponse.interpret ⟨200, body, none⟩ (some target)).toOption =
      (decodeData cs target).toOption.map fun v => some (.pointer v) := by
  have haccept : accept ⟨200, body, none⟩ = .ok ⟨cs, []⟩ :=
    accept_of_carries rfl (isSuccess_of_status rfl) henvelope rfl
  unfold interpret
  rw [haccept]
  change (if isVoid cs = true then pure (some target) else
    (decodeData cs target).mapError PostError.data >>= fun v => pure (some (.pointer v))).toOption = _
  rw [hvoid, if_neg Bool.false_ne_true, toOption_bind, toOption_mapError]
  cases decodeData cs target <;> rfl

/-- A response gives something if it was read to its end, its status is a success and it reports no errors:
the target as it is if the data say nothing, and what is decoded into it else. -/
theorem of_interpret {target : Value} {out : Option Value} (h : r.interpret (some target) = .ok out) :
    r.broken = none ∧ 200 ≤ r.status ∧ r.status < 300 ∧
      ∃ e, decodeText Envelope.decode default (charsOf r.body) = .ok e ∧ e.errors = [] ∧
        (isVoid e.data = true ∧ out = some target ∨
          isVoid e.data = false ∧ ∃ v, decodeData e.data target = .ok v ∧ out = some (.pointer v)) := by
  unfold interpret at h
  cases haccept : r.accept with
  | error => rw [haccept] at h; cases h
  | ok e =>
    obtain ⟨hbroken, hstatus, hbody, herrors⟩ := accept_eq_ok_iff.mp haccept
    refine ⟨hbroken, hstatus.1, hstatus.2, e, hbody, herrors, ?_⟩
    rw [haccept] at h
    change (if isVoid e.data = true then _ else _) = _ at h
    split at h
    · next hvoid => exact .inl ⟨hvoid, (Except.ok.inj h).symm⟩
    · next hvoid =>
      cases hdata : decodeData e.data target with
      | error => rw [hdata] at h; cases h
      | ok v =>
        rw [hdata] at h
        exact .inr ⟨by simpa using hvoid, v, rfl, (Except.ok.inj h).symm⟩

end HttpResponse

section Response

variable {j : Json} {text : String}
  (hdoc : Document (.object [("data", .object [("__schema", j)])]) text.toList)
include hdoc

/-- The schema in a response. -/
theorem HttpResponse.toOption_interpret
    (hdepth : (Json.object [("data", .object [("__schema", j)])]).depth ≤ Scan.levelLimit) :
    (HttpResponse.interpret ⟨200, Octets.ofString text, none⟩
        (some (.pointer (.schema default)))).toOption =
      (onJson Schema.decode default j).map fun s => some (.pointer (.schema s)) := by
  obtain ⟨cs, hspells, henvelope⟩ := Envelope.decodeText_data hdoc hdepth
  have hdata : (Json.object [("__schema", j)]).depth ≤ Scan.levelLimit := by
    rw [depth_single] at hdepth
    exact Nat.le_of_succ_le hdepth
  rw [toOption_interpret_of_data _ (isVoid_object hspells), toOption_decodeData hspells hdata,
    Option.map_map]
  · rfl
  · rw [charsOf, Octets.decode_ofString, henvelope]

/-- Nothing comes out of a response that is nested too deep. -/
theorem HttpResponse.toOption_interpret_tooDeep
    (hdepth : Scan.levelLimit < (Json.object [("data", .object [("__schema", j)])]).depth)
    (out : Option Value) :
    (HttpResponse.interpret ⟨200, Octets.ofString text, none⟩ out).toOption = none := by
  have henvelope := Envelope.toOption_decodeText_tooDeep hdoc hdepth
  obtain ⟨e, he⟩ := exists_error_of_toOption henvelope
  unfold HttpResponse.interpret
  rw [HttpResponse.accept_of_isSuccess rfl (HttpResponse.isSuccess_of_status rfl), charsOf, Octets.decode_ofString, he]
  rfl

end Response

/-! ### The schema of a server -/

/-- The server answers the introspection query with a body. -/
def Endpoint.Answers (e : Endpoint) (transport : Transport) (body : Octets) : Prop :=
  ∃ request, introspectionCall.request (Octets.ofString e.url) e.header = .ok request ∧
    transport request = .ok ⟨200, body, none⟩

section Server

variable {e : Endpoint} {transport : Transport} {body : Octets} (h : e.Answers transport body)
include h

theorem Endpoint.toOption_fetch {found : Option Schema}
    (hfound : (HttpResponse.interpret ⟨200, body, none⟩ (some (.pointer (.schema default)))).toOption =
      found.map fun s => some (.pointer (.schema s))) :
    (e.fetch transport).2.toOption = found.bind fun s => s.complete.toOption := by
  obtain ⟨request, hrequest, hresponse⟩ := h
  unfold Endpoint.fetch Client.post
  simp only [hrequest, hresponse]
  cases found with
  | none =>
    obtain ⟨error, herror⟩ := exists_error_of_toOption hfound
    simp only [herror]
    rfl
  | some s =>
    simp only [eq_ok_of_toOption hfound]
    rfl

end Server

end Bindery
