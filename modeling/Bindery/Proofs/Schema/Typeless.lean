import Bindery.Proofs.Schema.Parsing

/-!
# Answers without types

A schema without types is of no use, and an answer that is such a schema is refused. The question is asked
only of a schema that stands alone. A schema below `__schema`, in a whole response or in its data, is taken as
it is, so the schema that is read can be without types, and it is so exactly for these answers.

## Main definitions

- `IsEnvelope` — the answers with a schema inside

## Main results

- `Schema.parse_of_content`, `Schema.parse_of_alone` — reading an envelope, and a schema that stands alone
- `Schema.parse_typeless_iff` — which answers give a schema without types
-/

namespace Bindery

open Json

/-- The answers with a schema inside: a whole response, and its data. -/
inductive IsEnvelope (j : Json) : Json → Prop
  | response : IsEnvelope j (.object [("data", .object [("__schema", j)])])
  | data : IsEnvelope j (.object [("__schema", j)])

namespace Schema

variable {text : List Char} {e : SchemaEnvelope} {s : Schema}

theorem parse_of_content (he : decodeText SchemaEnvelope.decode default text = .ok e)
    (hs : e.content? = some s) : Schema.parse text = .ok s := by
  unfold Schema.parse
  rw [he]
  simp only [Except.mapError, bind, Except.bind, hs]
  rfl

theorem parse_of_alone (he : decodeText SchemaEnvelope.decode default text = .ok e)
    (hnone : e.content? = none) (hs : decodeText Schema.decode default text = .ok s) :
    Schema.parse text = if s.types.toList.isEmpty then .error .noTypes else .ok s := by
  unfold Schema.parse
  rw [he]
  simp only [Except.mapError, bind, Except.bind, hnone, hs]
  split <;> rfl

/-- A schema that is read stands in an envelope, or it stands alone and has types. -/
theorem content_or_types_of_parse (h : Schema.parse text = .ok s) :
    (∃ e, decodeText SchemaEnvelope.decode default text = .ok e ∧ e.content? = some s) ∨
      s.types.toList ≠ [] := by
  cases he : decodeText SchemaEnvelope.decode default text with
  | error f =>
    unfold Schema.parse at h
    rw [he] at h
    cases h
  | ok e =>
    cases hcontent : e.content? with
    | some s' =>
      rw [parse_of_content he hcontent] at h
      cases h
      exact .inl ⟨e, rfl, hcontent⟩
    | none =>
      cases hs : decodeText Schema.decode default text with
      | error f =>
        unfold Schema.parse at h
        rw [he] at h
        simp only [Except.mapError, bind, Except.bind, hcontent, hs] at h
        cases h
      | ok s' =>
        rw [parse_of_alone he hcontent hs] at h
        split at h
        · cases h
        · next hne =>
          cases h
          exact .inr (by simpa using hne)

variable {j answer : Json}

theorem parse_of_isEnvelope (hs : onJson Schema.decode default j = some s) (hj : j ≠ .null)
    (hanswer : IsEnvelope j answer) (htext : Document answer text)
    (hdepth : answer.depth ≤ Scan.levelLimit) : Schema.parse text = .ok s := by
  apply eq_ok_of_toOption
  rw [toOption_parse htext hdepth, ← hs]
  cases hanswer with
  | response => exact parseOn_response hj
  | data => exact parseOn_data hj

theorem parse_of_isAlone {members : List (String × Json)}
    (hs : onJson Schema.decode default (.object members) = some s)
    (hlacks : Lacks ["data", "__schema"] (.object members)) (htext : Document (.object members) text)
    (hdepth : (Json.object members).depth ≤ Scan.levelLimit) :
    Schema.parse text = if s.types.toList.isEmpty then .error .noTypes else .ok s := by
  have henvelope : decodeText SchemaEnvelope.decode default text = .ok default := by
    apply eq_ok_of_toOption
    rw [toOption_decodeText SchemaEnvelope.faithful_decode default htext hdepth]
    exact SchemaEnvelope.onJson_decode_alone hlacks
  have hschema : decodeText Schema.decode default text = .ok s := by
    apply eq_ok_of_toOption
    rw [toOption_decodeText undoes_decode.faithful default htext hdepth, hs]
  exact parse_of_alone henvelope rfl hschema

/-- A text gives a schema without types exactly if it is an envelope with such a schema inside. Inside an
envelope every JSON value that can be read as a schema is accepted, whether or not the schema has types; of
those that stand alone, those without types are refused. -/
theorem parse_typeless_iff (text : List Char) :
    ((∃ s, Schema.parse text = .ok s ∧ s.types.toList = []) ↔
      ∃ e s, decodeText SchemaEnvelope.decode default text = .ok e ∧ e.content? = some s ∧
        s.types.toList = []) ∧
    (∀ j s answer, onJson Schema.decode default j = some s → j ≠ .null → IsEnvelope j answer →
      Document answer text → answer.depth ≤ 10000 → Schema.parse text = .ok s) ∧
    ∀ members s, onJson Schema.decode default (.object members) = some s →
      Lacks ["data", "__schema"] (.object members) → Document (.object members) text →
      (Json.object members).depth ≤ 10000 →
      Schema.parse text = if s.types.toList.isEmpty then .error .noTypes else .ok s := by
  refine ⟨⟨?_, ?_⟩, ?_, ?_⟩
  · rintro ⟨s, hparse, htypes⟩
    rcases content_or_types_of_parse hparse with ⟨e, he, hcontent⟩ | hne
    · exact ⟨e, s, he, hcontent, htypes⟩
    · exact absurd htypes hne
  · rintro ⟨e, s, he, hcontent, htypes⟩
    exact ⟨s, parse_of_content he hcontent, htypes⟩
  · intro j s answer hs hj hanswer htext hdepth
    exact parse_of_isEnvelope hs hj hanswer htext hdepth
  · intro members s hs hlacks htext hdepth
    exact parse_of_isAlone hs hlacks htext hdepth

end Schema

/-- A schema with an empty list of types. -/
def barrenSchema : Schema where
  queryType := none
  mutationType := none
  subscriptionType := none
  types := some []
  directives := none

theorem barrenSchema_decoded : onJson Schema.decode default barrenSchema.json = some barrenSchema :=
  Schema.undoes_decode.gives barrenSchema _ barrenSchema.form_json default

theorem proper_barrenSchema : barrenSchema.json.Proper := by
  simp [barrenSchema, Schema.json, Json.ofEntries]

/-- Alone it is refused, and as the data of a response it is not. -/
theorem Schema.parse_barren_alone :
    Schema.parse barrenSchema.json.text.toList = .error .noTypes ∧
      Schema.parse (Json.object [("__schema", barrenSchema.json)]).text.toList = .ok barrenSchema := by
  have hproper : (Json.object [("__schema", barrenSchema.json)]).Proper := by
    simp [proper_barrenSchema]
  obtain ⟨-, -, halone⟩ := Schema.parse_typeless_iff barrenSchema.json.text.toList
  obtain ⟨-, hinside, -⟩ :=
    Schema.parse_typeless_iff (Json.object [("__schema", barrenSchema.json)]).text.toList
  have hlacks : Lacks ["data", "__schema"] barrenSchema.json := by
    rintro _ ⟨⟩
    decide
  constructor
  · exact halone _ barrenSchema barrenSchema_decoded hlacks (spells_text proper_barrenSchema).document
      (by decide)
  · exact hinside _ barrenSchema _ barrenSchema_decoded nofun .data (spells_text hproper).document
      (by decide)

/-- A whole response with this schema gives a schema without types. -/
theorem Schema.parse_barren :
    Schema.parse (Json.object [("data", .object [("__schema", barrenSchema.json)])]).text.toList =
        .ok barrenSchema ∧
      barrenSchema.types.toList = [] := by
  have hproper : (Json.object [("data", .object [("__schema", barrenSchema.json)])]).Proper := by
    simp [proper_barrenSchema]
  exact ⟨Schema.parse_of_isEnvelope barrenSchema_decoded nofun .response (spells_text hproper).document
    (by decide), rfl⟩

end Bindery
