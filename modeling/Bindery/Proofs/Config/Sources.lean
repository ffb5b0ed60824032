import Bindery.Config.Load
import Bindery.Proofs.Client.Request
import Bindery.Proofs.Client.Response

/-!
# One answer from two sources

The answer to an introspection query can be stored in a file, or come from a server. Both lead to the schema in
it. If it does not say which type the queries have, then the schema from the server gets the type with the usual
name as the root of queries, and the schema from the file has no such root.

## Main definitions

- `Schema.completed` — the schema with the usual root of queries
- `AnswerSources` — a configuration with a file and one with a server that give the same answer

## Main results

- `AnswerSources.loadSchema_eq` — the schema from the server is the one from the file, completed
- `Config.loadSchema_sources` — when both schemas are the same
- `Config.roots_rootless` — two sources of one answer with different roots
-/

namespace Bindery

open Json

/-! ### Schemas without a root of queries -/

/-- The schema with the type of the usual name as the root of queries, if it has none. -/
def Schema.completed (s : Schema) : Schema :=
  if s.queryType = none ∧ ∃ t ∈ s.types.values, t.name = "Query" then
    { s with queryType := some ⟨some "Query"⟩ }
  else s

theorem Schema.complete_eq {s : Schema} (htypes : s.types.toList ≠ [])
    (hentries : none ∉ s.types.toList) : s.complete = .ok s.completed := by
  have hempty : ¬ s.types.toList.isEmpty = true := by simpa using htypes
  have hnone : ¬ s.types.toList.contains none = true := by simpa using hentries
  have hany : s.types.values.any (·.name == "Query") = true ↔ ∃ t ∈ s.types.values, t.name = "Query" := by
    simp
  unfold Schema.complete Schema.completed
  rw [if_neg hempty]
  cases hquery : s.queryType with
  | some r => simp
  | none =>
    rw [if_neg (by simp), if_neg hnone]
    by_cases htype : ∃ t ∈ s.types.values, t.name = "Query"
    · rw [if_pos (hany.mpr htype), if_pos (⟨rfl, htype⟩ : (none : Option RootType) = none ∧ _)]
    · rw [if_neg (mt hany.mp htype), if_neg fun h : (none : Option RootType) = none ∧ _ => htype h.2]

/-! ### The two sources -/

/-- A response with the JSON form of a schema. -/
def responseOf (j : Json) : Json :=
  .object [("data", .object [("__schema", j)])]

/-- One configuration has a file with a text, and the server of the other one answers with it. -/
structure AnswerSources (text : Octets) (stored served : Config) (store : Store)
    (transport : Transport) : Prop where
  file : ∃ file, stored.schema = some [file] ∧ isAnswerFile file = true ∧ store.read file = .ok text
  server : served.schema = none ∧ ∃ e, served.endpoint = some e ∧ e.Answers transport text

theorem Store.toOption_loadSchema {store : Store} {file : String} {content : Octets}
    (hfile : isAnswerFile file = true) (hread : store.read file = .ok content) :
    (store.loadSchema [file]).toOption = (Schema.parse (charsOf content)).toOption := by
  have hpartition : [file].partition isAnswerFile = ([file], []) := by simp [hfile]
  rw [Store.loadSchema, hpartition]
  simp only [Store.readSchema, hread]
  exact toOption_mapError _ _

section Sources

variable {text : Octets} {stored served : Config} {store : Store} {transport : Transport}
  (h : AnswerSources text stored served store transport)
include h

theorem AnswerSources.toOption_stored :
    (stored.loadSchema store transport).2.toOption = (Schema.parse (charsOf text)).toOption := by
  obtain ⟨file, hschema, hfile, hread⟩ := h.file
  rw [Config.loadSchema, hschema]
  simp only [toOption_mapError]
  exact Store.toOption_loadSchema hfile hread

theorem AnswerSources.toOption_served (found : Option Schema)
    (hfound : (HttpResponse.interpret ⟨200, text, none⟩ (some (.pointer (.schema default)))).toOption =
      found.map fun s => some (.pointer (.schema s))) :
    (served.loadSchema store transport).2.toOption = found.bind fun s => s.complete.toOption := by
  obtain ⟨hschema, e, hendpoint, hanswers⟩ := h.server
  rw [Config.loadSchema, hschema, hendpoint]
  simp only [toOption_mapError]
  exact Endpoint.toOption_fetch hanswers hfound

end Sources

theorem ne_null_of_decode {j : Json} {s : Schema} (hs : onJson Schema.decode default j = some s)
    (htypes : s.types.toList ≠ []) : j ≠ .null := by
  rintro rfl
  obtain rfl : default = s := Option.some.inj hs
  exact htypes rfl

section Answer

variable {j : Json} {s : Schema} {text : String} {stored served : Config} {store : Store}
  {transport : Transport}
  (hsources : AnswerSources (Octets.ofString text) stored served store transport)
  (htext : Document (responseOf j) text.toList)
include hsources htext

/-- Both sources lead to the schema in the answer, but only the one from the server is completed. -/
theorem AnswerSources.loadSchema_eq (hs : onJson Schema.decode default j = some s)
    (htypes : s.types.toList ≠ []) (hentries : none ∉ s.types.toList)
    (hdepth : (responseOf j).depth ≤ Scan.levelLimit) :
    (stored.loadSchema store transport).2 = .ok s ∧
      (served.loadSchema store transport).2 = .ok s.completed := by
  constructor
  · apply eq_ok_of_toOption
    rw [hsources.toOption_stored, charsOf, Octets.decode_ofString, Schema.toOption_parse htext hdepth]
    exact (Schema.parseOn_response (ne_null_of_decode hs htypes)).trans hs
  · -- the data of the response are the same value, read over a schema with nothing in it
    apply eq_ok_of_toOption
    rw [hsources.toOption_served _ (HttpResponse.toOption_interpret htext hdepth), hs,
      Option.bind_some, Schema.complete_eq htypes hentries]
    rfl

/-- Neither source leads to a schema if the answer is nested too deep. -/
theorem AnswerSources.loadSchema_tooDeep (hdepth : Scan.levelLimit < (responseOf j).depth) :
    (∃ e, (stored.loadSchema store transport).2 = .error e) ∧
      ∃ e, (served.loadSchema store transport).2 = .error e := by
  constructor
  · apply exists_error_of_toOption
    rw [hsources.toOption_stored, charsOf, Octets.decode_ofString,
      Schema.toOption_parse_tooDeep htext hdepth]
  · apply exists_error_of_toOption
    exact hsources.toOption_served none (HttpResponse.toOption_interpret_tooDeep htext hdepth _)

end Answer

theorem Schema.completed_eq_iff (s : Schema) :
    s.completed = s ↔ (s.queryType = none → ∀ t ∈ s.types.values, t.name ≠ "Query") := by
  unfold Schema.completed
  constructor
  · intro hsame hquery t ht hname
    rw [if_pos ⟨hquery, t, ht, hname⟩] at hsame
    have hroot := congrArg Schema.queryType hsame
    rw [hquery] at hroot
    cases hroot
  · intro hroot
    rw [if_neg]
    rintro ⟨hquery, t, ht, hname⟩
    exact hroot hquery t ht hname

/-- An answer with a schema is loaded from both sources, unless it is nested too deep. The file leads to the
schema as it is and the server to the schema completed, so that both are the same exactly if the schema has
a root of queries or no type of the usual name. -/
theorem Config.loadSchema_sources {j : Json} {s : Schema} {text : String} {stored served : Config}
    {store : Store} {transport : Transport}
    (hsources : AnswerSources (Octets.ofString text) stored served store transport)
    (htext : Document (responseOf j) text.toList) (hs : onJson Schema.decode default j = some s)
    (htypes : s.types.toList ≠ []) (hentries : none ∉ s.types.toList) :
    ((responseOf j).depth ≤ 10000 →
      (stored.loadSchema store transport).2 = .ok s ∧
        (served.loadSchema store transport).2 = .ok s.completed ∧
        (s.completed = s ↔ (s.queryType = none → ∀ t ∈ s.types.values, t.name ≠ "Query"))) ∧
      (10000 < (responseOf j).depth →
        (∃ e, (stored.loadSchema store transport).2 = .error e) ∧
          ∃ e, (served.loadSchema store transport).2 = .error e) := by
  constructor
  · intro hdepth
    obtain ⟨hstored, hserved⟩ := hsources.loadSchema_eq htext hs htypes hentries hdepth
    exact ⟨hstored, hserved, s.completed_eq_iff⟩
  · intro hdepth
    exact hsources.loadSchema_tooDeep htext hdepth

/-! ### A schema without a root of queries -/

/-- A schema that does not say which type the queries have. -/
def rootlessSchema : Schema where
  queryType := none
  mutationType := none
  subscriptionType := none
  types := some [some {
    kind := .object
    name? := some "Query"
    description? := none
    fields := some []
    inputFields := none
    interfaces := none
    enumValues := none
    possibleTypes := none }]
  directives := none

/-- An answer with it. -/
def rootlessText : String :=
  (responseOf rootlessSchema.json).text

theorem document_rootlessText : Document (responseOf rootlessSchema.json) rootlessText.toList := by
  have hproper : (responseOf rootlessSchema.json).Proper := by
    simp [responseOf, rootlessSchema, Schema.json, Json.ofEntries, Json.ofText, FullType.json]
  exact (spells_text hproper).document

/-- A configuration with the file of the answer. -/
def fileConfig : Config :=
  { (default : Config) with schema := some ["schema.json"] }

/-- A configuration with the server. -/
def serverConfig : Config :=
  { (default : Config) with endpoint := some ⟨none, "http://localhost/query"⟩ }

/-- Files of which one holds the text. -/
def answerStore (text : Octets) : Store :=
  ⟨.directory [("schema.json", .file text)], []⟩

theorem answerStore_read (text : Octets) : (answerStore text).read "schema.json" = .ok text := by
  rfl

theorem isAnswerFile_schema : isAnswerFile "schema.json" = true := by
  decide +kernel

theorem exists_request :
    ∃ request, introspectionCall.request (Octets.ofString "http://localhost/query") [] = .ok request := by
  have hjson := Call.json_of_strings introspectionQuery "IntrospectionQuery" (by decide)
  have hurl : (Url.parse (Octets.ofString "http://localhost/query")).toOption.isSome = true := by
    decide +kernel
  obtain ⟨url, hurl⟩ := Option.isSome_iff_exists.mp hurl
  rw [Call.request, introspectionCall, hjson, eq_ok_of_toOption hurl]
  exact ⟨_, rfl⟩

/-- A server that always answers with the text. -/
def answering (text : Octets) : Transport :=
  fun _ => .ok ⟨200, text, none⟩

theorem answerSources (text : Octets) :
    AnswerSources text fileConfig serverConfig (answerStore text) (answering text) where
  file := ⟨"schema.json", rfl, isAnswerFile_schema, answerStore_read text⟩
  server := by
    obtain ⟨request, hrequest⟩ := exists_request
    exact ⟨rfl, _, rfl, request, hrequest, rfl⟩

theorem decode_rootlessSchema :
    onJson Schema.decode default rootlessSchema.json = some rootlessSchema :=
  Schema.undoes_decode.gives rootlessSchema _ rootlessSchema.form_json default

theorem Config.loadSchema_rootless :
    AnswerSources (Octets.ofString rootlessText) fileConfig serverConfig
        (answerStore (Octets.ofString rootlessText)) (answering (Octets.ofString rootlessText)) ∧
      Document (responseOf rootlessSchema.json) rootlessText.toList ∧
      onJson Schema.decode default rootlessSchema.json = some rootlessSchema ∧
      rootlessSchema.types.toList ≠ [] ∧ none ∉ rootlessSchema.types.toList ∧
      (fileConfig.loadSchema (answerStore (Octets.ofString rootlessText))
        (answering (Octets.ofString rootlessText))).2 = .ok rootlessSchema ∧
      (serverConfig.loadSchema (answerStore (Octets.ofString rootlessText))
        (answering (Octets.ofString rootlessText))).2 =
          .ok { rootlessSchema with queryType := some ⟨some "Query"⟩ } := by
  have htypes : rootlessSchema.types.toList ≠ [] := by decide
  have hentries : none ∉ rootlessSchema.types.toList := by decide
  have hdepth : (responseOf rootlessSchema.json).depth ≤ 10000 := by decide
  obtain ⟨hstored, hserved, -⟩ := (Config.loadSchema_sources (answerSources _) document_rootlessText
    decode_rootlessSchema htypes hentries).1 hdepth
  exact ⟨answerSources _, document_rootlessText, decode_rootlessSchema, htypes, hentries, hstored,
    hserved⟩

/-- The same answer leads to other operations from the file than from the server. -/
theorem Config.roots_rootless : ∃ s t,
    (fileConfig.loadSchema (answerStore (Octets.ofString rootlessText))
        (answering (Octets.ofString rootlessText))).2 = .ok s ∧
      (serverConfig.loadSchema (answerStore (Octets.ofString rootlessText))
        (answering (Octets.ofString rootlessText))).2 = .ok t ∧
      s.roots = [] ∧ t.roots = [(.query, "Query")] := by
  obtain ⟨hstored, hserved⟩ := (answerSources _).loadSchema_eq document_rootlessText
    decode_rootlessSchema (by decide) (by decide) (by decide)
  exact ⟨_, _, hstored, hserved, by decide, by decide⟩

end Bindery
