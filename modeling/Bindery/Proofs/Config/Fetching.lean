import Bindery.Proofs.Config.Sources

/-!
# Schemas from a server

Whatever a server answers, a project either gets the completed schema of the answer or stays as it is. There is
one exception: if an answer does not say which type the queries have, its types are looked through for the usual
name, and an empty entry among them stops the program.

## Main definitions

- `Endpoint.Serves` — the schema in the answer of a server, before it is completed
- `Schema.StopsCompletion` — the schemas that cannot be completed because of an empty entry

## Main results

- `Endpoint.fetch_of_serves`, `Endpoint.fetch_of_not_serves` — what a server gives
- `Schema.complete_cases` — the three outcomes of completing a schema
- `Project.loadSchema_cases` — what becomes of a project
- `Project.loadSchema_outcomes` — when the program stops, and what is stored else
-/

namespace Bindery

open Json

/-! ### The schema in an answer -/

/-- The answer of the server to the introspection query holds a schema. -/
def Endpoint.Serves (e : Endpoint) (transport : Transport) (s : Schema) : Prop :=
  ∃ request response, introspectionCall.request (Octets.ofString e.url) e.header = .ok request ∧
    transport request = .ok response ∧
    response.interpret (some (.pointer (.schema default))) = .ok (some (.pointer (.schema s)))

theorem exists_schema_of_decodeData {cs : List Char} {s : Schema} {v : Value}
    (h : decodeData cs (.pointer (.schema s)) = .ok v) : ∃ s', v = .schema s' := by
  have hv : (decodeData cs (.pointer (.schema s))).toOption = some v := by rw [h]; rfl
  rw [decodeData, toOption_mapError, decodeText, toOption_bind, Value.toOption_decode_schema] at hv
  obtain ⟨u, hu, hmore⟩ := Option.bind_eq_some_iff.mp hv
  obtain ⟨s', -, rfl⟩ := Option.map_eq_some_iff.mp hu
  split at hmore
  · cases hmore
  · exact ⟨s', (Option.some.inj hmore).symm⟩

/-- Where a schema is wanted, a response gives a schema or nothing. -/
theorem HttpResponse.exists_schema_of_interpret {r : HttpResponse} {s : Schema} {out : Option Value}
    (h : r.interpret (some (.pointer (.schema s))) = .ok out) :
    ∃ s', out = some (.pointer (.schema s')) := by
  obtain ⟨-, -, -, e, -, -, ⟨-, rfl⟩ | ⟨-, v, hdata, rfl⟩⟩ := of_interpret h
  · exact ⟨s, rfl⟩
  · obtain ⟨s', rfl⟩ := exists_schema_of_decodeData hdata
    exact ⟨s', rfl⟩

theorem Endpoint.Serves.unique {e : Endpoint} {transport : Transport} {s s' : Schema}
    (h : e.Serves transport s) (h' : e.Serves transport s') : s = s' := by
  obtain ⟨request, response, hrequest, hresponse, hinterpret⟩ := h
  obtain ⟨request', response', hrequest', hresponse', hinterpret'⟩ := h'
  obtain rfl := Except.ok.inj (hrequest.symm.trans hrequest')
  obtain rfl := Except.ok.inj (hresponse.symm.trans hresponse')
  have hsame := Except.ok.inj (hinterpret.symm.trans hinterpret')
  exact Value.schema.inj (Value.pointer.inj (Option.some.inj hsame))

theorem Endpoint.fetch_of_serves {e : Endpoint} {transport : Transport} {s : Schema}
    (h : e.Serves transport s) : (e.fetch transport).2 = s.complete := by
  obtain ⟨request, response, hrequest, hresponse, hinterpret⟩ := h
  unfold Endpoint.fetch Client.post
  simp only [hrequest, hresponse, hinterpret]

theorem Endpoint.fetch_of_not_serves {e : Endpoint} {transport : Transport}
    (h : ∀ s, ¬e.Serves transport s) : ∃ error, (e.fetch transport).2 = .error (.post error) := by
  unfold Endpoint.fetch Client.post
  cases hrequest : introspectionCall.request (Octets.ofString e.url) e.header with
  | error error => exact ⟨.request error, by simp only [hrequest]⟩
  | ok request =>
    cases hresponse : transport request with
    | error reason => exact ⟨.transport request.url.redacted reason, by simp only [hrequest, hresponse]⟩
    | ok response =>
      cases hinterpret : response.interpret (some (.pointer (.schema default))) with
      | error error => exact ⟨error, by simp only [hrequest, hresponse, hinterpret]⟩
      | ok out =>
        obtain ⟨s, rfl⟩ := HttpResponse.exists_schema_of_interpret hinterpret
        exact absurd ⟨request, response, hrequest, hresponse, hinterpret⟩ (h s)

/-! ### Completing a schema -/

/-- The schema has types and does not say which of them the queries have, and an entry among its types is
empty. -/
def Schema.StopsCompletion (s : Schema) : Prop :=
  s.types.toList ≠ [] ∧ s.queryType = none ∧ none ∈ s.types.toList

/-- A schema without types is refused, an empty entry stops the program if the type of the queries is looked
for, and every other schema is completed. -/
theorem Schema.complete_cases (s : Schema) :
    s.types.toList = [] ∧ s.complete = .error .noTypes ∨
      s.StopsCompletion ∧ s.complete = .error .emptyType ∨
      s.types.toList ≠ [] ∧ ¬s.StopsCompletion ∧ s.complete = .ok s.completed := by
  by_cases htypes : s.types.toList = []
  · exact .inl ⟨htypes, by simp [Schema.complete, htypes]⟩
  · cases hquery : s.queryType with
    | some root =>
      have hstops : ¬s.StopsCompletion := by
        rintro ⟨-, hnone, -⟩
        rw [hquery] at hnone
        cases hnone
      exact .inr (.inr ⟨htypes, hstops, by simp [Schema.complete, Schema.completed, htypes, hquery]⟩)
    | none =>
      by_cases hentry : none ∈ s.types.toList
      · exact .inr (.inl ⟨⟨htypes, hquery, hentry⟩, by simp [Schema.complete, htypes, hquery, hentry]⟩)
      · exact .inr (.inr ⟨htypes, fun hstops => hentry hstops.2.2, Schema.complete_eq htypes hentry⟩)

theorem Schema.types_completed (s : Schema) : s.completed.types = s.types := by
  unfold Schema.completed
  split <;> rfl

theorem Schema.queryType_completed {s : Schema} (hquery : s.queryType = none)
    (htype : ∃ t ∈ s.types.values, t.name = "Query") :
    s.completed.queryType = some ⟨some "Query"⟩ := by
  rw [Schema.completed, if_pos ⟨hquery, htype⟩]

/-! ### Projects -/

theorem Project.loadSchema_of_error {p : Project} {store : Store} {transport : Transport}
    {error : SchemaLoadError} (h : (p.config.loadSchema store transport).2 = .error error) :
    (p.loadSchema store transport).2.2 = .error error ∧ (p.loadSchema store transport).1 = p := by
  unfold Project.loadSchema
  simp only [h, and_self]

theorem Project.loadSchema_of_ok {p : Project} {store : Store} {transport : Transport} {s : Schema}
    (h : (p.config.loadSchema store transport).2 = .ok s) :
    (p.loadSchema store transport).2.2 = .ok () ∧
      (p.loadSchema store transport).1 = { p with schema := some s } := by
  unfold Project.loadSchema
  simp only [h, and_self]

theorem Config.loadSchema_from_endpoint {c : Config} {e : Endpoint} (hschema : c.schema = none)
    (hendpoint : c.endpoint = some e) (store : Store) (transport : Transport) :
    (c.loadSchema store transport).2 = (e.fetch transport).2.mapError .fetch := by
  rw [Config.loadSchema, hschema, hendpoint]

section Server

variable {p : Project} {e : Endpoint} (hschema : p.config.schema = none)
  (hendpoint : p.config.endpoint = some e) (store : Store) (transport : Transport)
include hschema hendpoint

/-- What becomes of a project follows from the schema in the answer of its server. -/
theorem Project.loadSchema_cases :
    (∃ s, e.Serves transport s ∧ s.types.toList ≠ [] ∧ ¬s.StopsCompletion ∧
      (p.loadSchema store transport).2.2 = .ok () ∧
      (p.loadSchema store transport).1 = { p with schema := some s.completed }) ∨
    ∃ error, (p.loadSchema store transport).2.2 = .error error ∧
      (p.loadSchema store transport).1 = p ∧
      ((∃ s, e.Serves transport s ∧ s.StopsCompletion) ∧ error = .fetch .emptyType ∨
        (∀ s, e.Serves transport s → s.types.toList = []) ∧ error ≠ .fetch .emptyType) := by
  have hload := Config.loadSchema_from_endpoint hschema hendpoint store transport
  by_cases hserves : ∃ s, e.Serves transport s
  · obtain ⟨s, hs⟩ := hserves
    rw [Endpoint.fetch_of_serves hs] at hload
    rcases s.complete_cases with ⟨htypes, hcomplete⟩ | ⟨hstops, hcomplete⟩ | ⟨htypes, hstops, hcomplete⟩
    · rw [hcomplete] at hload
      obtain ⟨hresult, hsame⟩ := loadSchema_of_error hload
      refine .inr ⟨_, hresult, hsame, .inr ⟨fun s' hs' => ?_, by simp⟩⟩
      -- an answer holds one schema only
      rwa [hs'.unique hs]
    · rw [hcomplete] at hload
      obtain ⟨hresult, hsame⟩ := loadSchema_of_error hload
      exact .inr ⟨_, hresult, hsame, .inl ⟨⟨s, hs, hstops⟩, rfl⟩⟩
    · rw [hcomplete] at hload
      exact .inl ⟨s, hs, htypes, hstops, loadSchema_of_ok hload⟩
  · have hnone : ∀ s, ¬e.Serves transport s := fun s hs => hserves ⟨s, hs⟩
    obtain ⟨error, herror⟩ := Endpoint.fetch_of_not_serves hnone
    rw [herror] at hload
    obtain ⟨hresult, hsame⟩ := loadSchema_of_error hload
    exact .inr ⟨_, hresult, hsame, .inr ⟨fun s hs => absurd hs (hnone s), by simp⟩⟩

/-- Loading the schema of a project from a server has one of three outcomes, whatever the server does. The
program stops if there is an empty entry among the types of an answer that have to be looked through. There is
a schema if an answer has types and they need not be looked through or have no empty entry: then the project
has the schema of the answer, in which the type with the usual name is the root of queries if the answer names
none. In all other cases there is an error and the project stays as it is. -/
theorem Project.loadSchema_outcomes :
    ((p.loadSchema store transport).2.2 = .error (.fetch .emptyType) ↔
      ∃ s, e.Serves transport s ∧ s.types.toList ≠ [] ∧ s.queryType = none ∧ none ∈ s.types.toList) ∧
    ((p.loadSchema store transport).2.2 = .ok () ↔
      ∃ s, e.Serves transport s ∧ s.types.toList ≠ [] ∧ (s.queryType = none → none ∉ s.types.toList)) ∧
    (∀ error, (p.loadSchema store transport).2.2 = .error error →
      (p.loadSchema store transport).1 = p) ∧
    ∀ s, e.Serves transport s → (p.loadSchema store transport).2.2 = .ok () →
      (p.loadSchema store transport).1 = { p with schema := some s.completed } ∧
      s.completed.types = s.types ∧ s.types.toList ≠ [] ∧
      (s.queryType = none → (∃ t ∈ s.types.values, t.name = "Query") →
        s.completed.queryType = some ⟨some "Query"⟩) := by
  rcases Project.loadSchema_cases hschema hendpoint store transport with
    ⟨s, hs, htypes, hstops, hresult, hstored⟩ | ⟨error, hresult, hsame, hcause⟩
  · have hentries : s.queryType = none → none ∉ s.types.toList :=
      fun hquery hentry => hstops ⟨htypes, hquery, hentry⟩
    rw [hresult]
    refine ⟨iff_of_false (by simp) ?_, iff_of_true rfl ⟨s, hs, htypes, hentries⟩, by simp, ?_⟩
    · rintro ⟨s', hs', hstops'⟩
      exact absurd (hs'.unique hs ▸ hstops') hstops
    · intro s' hs' _
      obtain rfl := hs'.unique hs
      exact ⟨hstored, s'.types_completed, htypes, Schema.queryType_completed⟩
  · rw [hresult]
    refine ⟨?_, iff_of_false (by simp) ?_, fun _ _ => hsame, by simp⟩
    · rcases hcause with ⟨hstops, rfl⟩ | ⟨hempty, hother⟩
      · exact iff_of_true rfl hstops
      · refine iff_of_false (fun h => hother (Except.error.inj h)) ?_
        rintro ⟨s, hs, htypes, -⟩
        exact absurd (hempty s hs) htypes
    · rintro ⟨s, hs, htypes, hentries⟩
      rcases hcause with ⟨⟨s', hs', -, hquery, hentry⟩, -⟩ | ⟨hempty, -⟩
      · obtain rfl := hs'.unique hs
        exact absurd hentry (hentries hquery)
      · exact absurd (hempty s hs) htypes

end Server

/-! ### Two answers -/

/-- A server that answers with a schema serves it. -/
theorem serves_answering {s : Schema} (hproper : (responseOf s.json).Proper)
    (hdepth : (responseOf s.json).depth ≤ Scan.levelLimit) :
    (⟨none, "http://localhost/query"⟩ : Endpoint).Serves
      (answering (Octets.ofString (responseOf s.json).text)) s := by
  obtain ⟨request, hrequest⟩ := exists_request
  have hdecode : onJson Schema.decode default s.json = some s :=
    Schema.undoes_decode.gives s _ s.form_json default
  refine ⟨request, _, hrequest, rfl, eq_ok_of_toOption ?_⟩
  rw [HttpResponse.toOption_interpret (spells_text hproper).document hdepth, hdecode]
  rfl

/-- A schema that does not say which type the queries have, with an empty entry. -/
def gappySchema : Schema :=
  { rootlessSchema with types := some (none :: rootlessSchema.types.toList) }

theorem serves_rootlessSchema : (⟨none, "http://localhost/query"⟩ : Endpoint).Serves
    (answering (Octets.ofString rootlessText)) rootlessSchema := by
  refine serves_answering ?_ (by decide)
  simp [responseOf, rootlessSchema, Schema.json, Json.ofEntries, Json.ofText, FullType.json]

/-- The schema with the usual root of queries is stored in a project that had none. -/
theorem Project.rootless_stored :
    (Project.mk serverConfig none).config.schema = none ∧
      (Project.mk serverConfig none).config.endpoint = some ⟨none, "http://localhost/query"⟩ ∧
      ((Project.mk serverConfig none).loadSchema ⟨.directory [], []⟩
        (answering (Octets.ofString rootlessText))).1 = 
          ⟨serverConfig, some { rootlessSchema with queryType := some ⟨some "Query"⟩ }⟩ := by
  obtain ⟨-, hok, -, hstored⟩ := Project.loadSchema_outcomes (p := ⟨serverConfig, none⟩) rfl rfl
    ⟨.directory [], []⟩ (answering (Octets.ofString rootlessText))
  have hresult := hok.mpr ⟨rootlessSchema, serves_rootlessSchema, by decide, fun _ => by decide⟩
  exact ⟨rfl, rfl, (hstored rootlessSchema serves_rootlessSchema hresult).1⟩

/-- An empty entry beside the type of queries stops the program. -/
theorem Project.gappy_stops :
    ((Project.mk serverConfig none).loadSchema ⟨.directory [], []⟩
      (answering (Octets.ofString (responseOf gappySchema.json).text))).2.2 =
        .error (.fetch .emptyType) := by
  have hserves : (⟨none, "http://localhost/query"⟩ : Endpoint).Serves
      (answering (Octets.ofString (responseOf gappySchema.json).text)) gappySchema := by
    refine serves_answering ?_ (by decide)
    simp [responseOf, gappySchema, rootlessSchema, Schema.json, Json.ofEntries, Json.ofText, FullType.json,
      Entries.toList]
  have hcomplete : gappySchema.complete = .error .emptyType := rfl
  refine (Project.loadSchema_of_error ?_).1
  rw [Config.loadSchema_from_endpoint rfl rfl, Endpoint.fetch_of_serves hserves, hcomplete]
  rfl

end Bindery
