import Bindery.Schema.Encoding
import Bindery.Proofs.Schema.Forms
import Bindery.Proofs.Text.Octets

/-!
# Reading answers back

The answer to an introspection query is a whole response, its data, or the schema alone. First the text is
read as one of the former two, and then, if there is no schema in it, once more as the latter. Whichever it is,
reading gets back the schema that was written, unless the text is nested too deep.

## Main definitions

- `IsAnswer` — the answers around the JSON form of a schema
- `Schema.parseOn` — what reading makes of an answer

## Main results

- `Schema.toOption_parse` — reading a text depends on the value that it spells
- `Schema.form_json` — the JSON of a schema writes it
- `Schema.parse_answer` — a schema is got back from every answer that is not nested too deep
-/

namespace Bindery

open Json

/-! ### What reading makes of an answer -/

theorem Schema.faithful_decodeOption : Faithful (decodeOption Schema.decode) :=
  Json.faithful_decodeOption undoes_decode.faithful

theorem SchemaData.faithful_members : ∀ k ∈ [Member.of "__schema" SchemaData.schema
    (fun x d => { d with schema := x }) (decodeOption Schema.decode)], Faithful k.decode :=
  List.forall_mem_singleton.mpr (faithful_member Schema.faithful_decodeOption _ _ _)

theorem SchemaData.faithful_decode : Faithful SchemaData.decode :=
  faithful_decodeRecord faithful_members

theorem SchemaData.faithful_decodeOption : Faithful (decodeOption SchemaData.decode) :=
  Json.faithful_decodeOption faithful_decode

theorem SchemaEnvelope.faithful_members : ∀ k ∈ [Member.of "data" SchemaEnvelope.data
      (fun x e => { e with data := x }) (decodeOption SchemaData.decode),
    .of "__schema" SchemaEnvelope.schema (fun x e => { e with schema := x })
      (decodeOption Schema.decode)], Faithful k.decode := by
  simp only [List.forall_mem_cons]
  exact ⟨faithful_member SchemaData.faithful_decodeOption _ _ _,
    faithful_member Schema.faithful_decodeOption _ _ _, nofun⟩

theorem SchemaEnvelope.faithful_decode : Faithful SchemaEnvelope.decode :=
  faithful_decodeRecord faithful_members

/-- What reading makes of an answer. -/
def Schema.parseOn (answer : Json) : Option Schema :=
  (onJson SchemaEnvelope.decode default answer).bind fun e =>
    e.content?.or ((onJson Schema.decode default answer).filter fun s => !s.types.toList.isEmpty)

/-- Reading the text of an answer depends on the answer only. -/
theorem Schema.toOption_parse {answer : Json} {text : List Char} (hdoc : Document answer text)
    (hdepth : answer.depth ≤ Scan.levelLimit) : (Schema.parse text).toOption = parseOn answer := by
  have henvelope := toOption_decodeText SchemaEnvelope.faithful_decode default hdoc hdepth
  have hschema := toOption_decodeText undoes_decode.faithful default hdoc hdepth
  unfold Schema.parse parseOn
  rw [← henvelope, ← hschema]
  cases decodeText SchemaEnvelope.decode default text with
  | error f => rfl
  | ok e =>
    -- only without a schema in the envelope is the text read once more
    simp only [Except.mapError, bind, Except.bind, Except.toOption, Option.bind]
    cases e.content? with
    | some s => rfl
    | none =>
      cases decodeText Schema.decode default text with
      | error f => rfl
      | ok s =>
        cases htypes : s.types.toList.isEmpty with
        | true =>
          simp only [Option.filter_some, htypes]
          rfl
        | false =>
          simp only [Option.filter_some, htypes]
          rfl

/-- Nothing comes out of an answer that is nested too deep. -/
theorem Schema.toOption_parse_tooDeep {answer : Json} {text : List Char} (hdoc : Document answer text)
    (hdepth : Scan.levelLimit < answer.depth) : (Schema.parse text).toOption = none := by
  have henvelope := toOption_decodeText_tooDeep SchemaEnvelope.faithful_decode default hdoc hdepth
  unfold Schema.parse
  cases he : decodeText SchemaEnvelope.decode default text with
  | error f => rfl
  | ok e =>
    rw [he] at henvelope
    cases henvelope

/-! ### The answers around a schema -/

/-- The object has no member of one of the names. -/
def Lacks (names : List String) (j : Json) : Prop :=
  ∀ members, j = .object members → ∀ m ∈ members, m.1 ∉ names

/-- The answers around the JSON form of a schema: a whole response, its data, and the schema alone, which must
not look like one of them. -/
inductive IsAnswer (j : Json) : Json → Prop
  | response : IsAnswer j (.object [("data", .object [("__schema", j)])])
  | data : IsAnswer j (.object [("__schema", j)])
  | alone (h : Lacks ["data", "__schema"] j) : IsAnswer j j

theorem SchemaData.onJson_decode (former : SchemaData) (j : Json) :
    onJson SchemaData.decode former (.object [("__schema", j)]) =
      (onJson (decodeOption Schema.decode) former.schema j).map fun x => ⟨x⟩ :=
  onJson_decodeRecord_single faithful_members Schema.faithful_decodeOption "__schema" rfl former j

theorem SchemaEnvelope.onJson_decode_response (j : Json) :
    onJson SchemaEnvelope.decode default (.object [("data", j)]) =
      (onJson (decodeOption SchemaData.decode) none j).map fun x => ⟨x, none⟩ :=
  onJson_decodeRecord_single faithful_members SchemaData.faithful_decodeOption "data" rfl default j

theorem SchemaEnvelope.onJson_decode_data (j : Json) :
    onJson SchemaEnvelope.decode default (.object [("__schema", j)]) =
      (onJson (decodeOption Schema.decode) none j).map fun x => ⟨none, x⟩ :=
  onJson_decodeRecord_single faithful_members Schema.faithful_decodeOption "__schema" rfl default j

theorem SchemaEnvelope.onJson_decode_alone {members : List (String × Json)}
    (h : Lacks ["data", "__schema"] (.object members)) :
    onJson SchemaEnvelope.decode default (.object members) = some default := by
  rw [SchemaEnvelope.decode, onJson_decodeRecord faithful_members]
  refine foldlM_memberOn_unknown (fun m hm k hk hname => h members rfl m hm ?_) default
  simp only [List.mem_cons, List.not_mem_nil, or_false] at hk ⊢
  rcases hk with rfl | rfl
  · exact .inl hname.symm
  · exact .inr hname.symm

theorem SchemaData.onJson_decodeOption (j : Json) :
    onJson (decodeOption SchemaData.decode) none (.object [("__schema", j)]) =
      (onJson (decodeOption Schema.decode) none j).map fun x => some ⟨x⟩ := by
  rw [Json.onJson_decodeOption faithful_decode]
  exact (congrArg (Option.map some) (onJson_decode default j)).trans (Option.map_map ..)

theorem Schema.onJson_decodeOption {j : Json} (h : j ≠ .null) :
    onJson (decodeOption Schema.decode) none j = (onJson Schema.decode default j).map some := by
  rw [Json.onJson_decodeOption undoes_decode.faithful, optionOn_of_ne_null h]
  rfl

theorem Schema.parseOn_response {j : Json} (h : j ≠ .null) :
    parseOn (.object [("data", .object [("__schema", j)])]) = onJson Schema.decode default j := by
  rw [parseOn, SchemaEnvelope.onJson_decode_response, SchemaData.onJson_decodeOption,
    onJson_decodeOption h]
  cases onJson Schema.decode default j <;> rfl

theorem Schema.parseOn_data {j : Json} (h : j ≠ .null) :
    parseOn (.object [("__schema", j)]) = onJson Schema.decode default j := by
  rw [parseOn, SchemaEnvelope.onJson_decode_data, onJson_decodeOption h]
  cases onJson Schema.decode default j <;> rfl

theorem Schema.parseOn_alone {members : List (String × Json)}
    (h : Lacks ["data", "__schema"] (.object members)) :
    parseOn (.object members) = (onJson Schema.decode default (.object members)).filter
      fun s => !s.types.toList.isEmpty := by
  rw [parseOn, SchemaEnvelope.onJson_decode_alone h]
  rfl

/-- The answers around a schema are read as the schema. -/
theorem Schema.parseOn_answer {s : Schema} {j answer : Json} (hform : s.Form j)
    (htypes : s.types.toList ≠ []) (hanswer : IsAnswer j answer) : parseOn answer = some s := by
  have hs := undoes_decode.gives s j hform default
  cases hanswer with
  | response => rw [parseOn_response hform.ne_null, hs]
  | data => rw [parseOn_data hform.ne_null, hs]
  | alone hlacks =>
    -- the object has neither of the names that an envelope knows, so it is an empty envelope first
    obtain ⟨members, rfl, -⟩ := hform
    rw [parseOn_alone hlacks, hs, Option.filter_some]
    simp [htypes]

/-- A schema that has types is got back from every text of every answer around every JSON value that writes
it, and a text in which arrays and objects are nested too deep is refused. -/
theorem Schema.parse_answer {s : Schema} {j answer : Json} {text : String} (hform : s.Form j)
    (htypes : s.types.toList ≠ []) (hanswer : IsAnswer j answer)
    (htext : Document answer text.toList) :
    (answer.depth ≤ 10000 → Schema.parse (charsOf (Octets.ofString text)) = .ok s) ∧
      (10000 < answer.depth → ∃ e, Schema.parse (charsOf (Octets.ofString text)) = .error e) := by
  rw [charsOf, Octets.decode_ofString]
  constructor
  · intro hdepth
    apply eq_ok_of_toOption
    rw [toOption_parse htext hdepth]
    exact parseOn_answer hform htypes hanswer
  · intro hdepth
    exact exists_error_of_toOption (toOption_parse_tooDeep htext hdepth)

/-! ### An answer in another order -/

/-- A schema with lists that are missing, lists that are empty and lists with empty entries. -/
def sparseSchema : Schema where
  queryType := some ⟨none⟩
  mutationType := none
  subscriptionType := some ⟨some ""⟩
  types := some [none, some {
    kind := .interface
    name? := some "Größe\n"
    description? := none
    fields := some []
    inputFields := none
    interfaces := some [none, some (.wrap .list none (.wrap .nonNull none (.plain .scalar (some "ID"))))]
    enumValues := none
    possibleTypes := some [] }]
  directives := some []

/-- The members of its JSON in another order, with a member among them that means nothing. -/
def sparseJson : Json :=
  .object [("directives", .ofEntries Directive.json sparseSchema.directives),
    ("types", .ofEntries FullType.json sparseSchema.types),
    ("note", .object [("data", .array [.null])]),
    ("subscriptionType", sparseSchema.subscriptionType.elim .null RootType.json),
    ("mutationType", sparseSchema.mutationType.elim .null RootType.json),
    ("queryType", sparseSchema.queryType.elim .null RootType.json)]

theorem Schema.parse_sparseJson :
    sparseSchema.Form sparseJson ∧ sparseSchema.types.toList ≠ [] ∧ IsAnswer sparseJson sparseJson ∧
      Document sparseJson sparseJson.text.toList ∧ sparseJson.depth ≤ 10000 ∧
      Schema.parse (charsOf (Octets.ofString sparseJson.text)) = .ok sparseSchema := by
  have hform : sparseSchema.Form sparseJson := by
    refine IsRecord.superset sparseSchema.form_json ?_ (by decide)
    simp
  have htypes : sparseSchema.types.toList ≠ [] := by decide
  have hanswer : IsAnswer sparseJson sparseJson := by
    refine .alone ?_
    rintro _ ⟨⟩
    decide
  have hproper : sparseJson.Proper := by
    simp [sparseJson, sparseSchema, Json.ofEntries, Json.ofText, FullType.json, TypeRef.json,
      RootType.json]
  have hdepth : sparseJson.depth ≤ 10000 := by decide
  exact ⟨hform, htypes, hanswer, (spells_text hproper).document, hdepth,
    (parse_answer hform htypes hanswer (spells_text hproper).document).1 hdepth⟩

/-! ### An answer that is nested too deep -/

/-- Arrays in arrays. -/
def nestedArrays : Nat → Json
  | 0 => .array []
  | n + 1 => .array [nestedArrays n]

theorem depth_nestedArrays (n : Nat) : (nestedArrays n).depth = n + 1 := by
  induction n with
  | zero => rfl
  | succ n ih => rw [nestedArrays, depth, itemsDepth, itemsDepth, ih, Nat.max_zero]

theorem proper_nestedArrays (n : Nat) : (nestedArrays n).Proper := by
  induction n with
  | zero => exact .array nofun
  | succ n ih => exact .array (List.forall_mem_singleton.mpr ih)

/-- A schema that says nothing. -/
def voidSchema : Schema where
  queryType := none
  mutationType := none
  subscriptionType := none
  types := some [none]
  directives := none

/-- Its JSON, with a member that means nothing but is nested deep. -/
def deepJson (n : Nat) : Json :=
  .object [("queryType", .null), ("mutationType", .null), ("subscriptionType", .null),
    ("types", .array [.null]), ("directives", .null), ("x", nestedArrays n)]

theorem form_deepJson (n : Nat) : voidSchema.Form (deepJson n) :=
  IsRecord.superset voidSchema.form_json (List.subset_append_left _ [("x", nestedArrays n)]) (by simp)

theorem isAnswer_deepJson (n : Nat) : IsAnswer (deepJson n) (deepJson n) := by
  refine .alone ?_
  rintro _ ⟨⟩
  simp

theorem proper_deepJson (n : Nat) : (deepJson n).Proper := by
  simp [deepJson, proper_nestedArrays]

theorem depth_deepJson (n : Nat) : (deepJson n).depth = n + 2 := by
  simp [deepJson, depth, membersDepth, itemsDepth, depth_nestedArrays]

/-- Ten thousand levels below the top are one too many. -/
theorem Schema.parse_deepJson_refused :
    voidSchema.Form (deepJson 9999) ∧ voidSchema.types.toList ≠ [] ∧
      IsAnswer (deepJson 9999) (deepJson 9999) ∧
      Document (deepJson 9999) (deepJson 9999).text.toList ∧
      ∃ e, Schema.parse (charsOf (Octets.ofString (deepJson 9999).text)) = .error e := by
  have htext := (spells_text (proper_deepJson 9999)).document
  refine ⟨form_deepJson _, by decide, isAnswer_deepJson _, htext, ?_⟩
  rw [charsOf, Octets.decode_ofString]
  apply exists_error_of_toOption
  apply Schema.toOption_parse_tooDeep htext
  rw [depth_deepJson]
  decide

end Bindery
