import Bindery.Client.Request
import Bindery.Proofs.Text.Octets

/-!
# The body of a request

The body is written as every record is: the layout of the record says which member stands for which part, and
members that would be empty are left out.

## Main results

- `RecordLayout.of?_callValues` — the layout of the body
- `Call.json_of_strings` — the body of a request without variables
-/

namespace Bindery

deriving instance DecidableEq for Slot, RecordLayout

/-- The parts of the body of a request without variables. -/
def callValues (query operation : String) : List (MemberLabel × Value) :=
  [(⟨"Query", "query"⟩, .text .plain (Octets.ofString query)),
    (⟨"OperationName", "operationName,omitempty"⟩, .text .plain (Octets.ofString operation)),
    (⟨"Variables", "variables,omitempty"⟩, .map (.text .plain) (.interface .any) [])]

/-- The member for the query. -/
def querySlot : Slot :=
  ⟨[0], { name := "query", named := true }⟩

/-- The member for the name of the operation. -/
def operationSlot : Slot :=
  ⟨[1], { name := "operationName", named := true, omitEmpty := true }⟩

/-- The member for the variables. -/
def variablesSlot : Slot :=
  ⟨[2], { name := "variables", named := true, omitEmpty := true }⟩

/-- The layout of the body. -/
def callLayout : RecordLayout :=
  ⟨[querySlot, operationSlot, variablesSlot], none⟩

theorem RecordLayout.of?_callValues (query operation : String) :
    of? (Value.memberTypes (callValues query operation)) = some callLayout := by
  change of? [(⟨"Query", "query"⟩, .text .plain),
    (⟨"OperationName", "operationName,omitempty"⟩, .text .plain),
    (⟨"Variables", "variables,omitempty"⟩, .map (.text .plain) (.interface .any))] = some callLayout
  decide +kernel

theorem RecordLayout.inOrder_callLayout :
    callLayout.inOrder = [querySlot, operationSlot, variablesSlot] :=
  List.mergeSort_of_pairwise (by decide)

namespace Value

theorem encodeAs_text (s : String) (style : JsonStyle) (h : style.format = none) :
    encodeAs (.text .plain (Octets.ofString s)) style = .ok (.string s) := by
  have htext : encodeText .plain (Octets.ofString s) = .ok (.string s) := by
    simp only [encodeText, Octets.string?_ofString]
    rfl
  rw [encodeAs, if_neg (by decide), unformatted, h, htext]
  rfl

theorem encodeAs_emptyMap (key item : DataType) (style : JsonStyle) (h : style.format = none) :
    encodeAs (.map key item []) style = .ok (.object []) := by
  rw [encodeAs, h]
  rfl

theorem encodeSlots_cons {parts : List EncodedPart} {s : Slot} {part : EncodedPart} {j : Json}
    {rest : List Slot} {more : List (Slot × Json)} (hfind : parts.find? (·.path == s.path) = some part)
    (hzero : s.options.omitZero = false) (hjson : part.json (s.style {}) = .ok j)
    (hrest : encodeSlots {} parts rest = .ok more) :
    encodeSlots {} parts (s :: rest) =
      .ok (if s.options.omitEmpty && j.isEmpty then more else (s, j) :: more) := by
  rw [encodeSlots, hfind]
  simp only [hzero, Bool.false_and, Bool.false_eq_true, if_false, hjson, hrest]
  rfl

/-- The query and the name are written, and the variables are left out. -/
theorem encodeSlots_callValues (query : String) {operation : String} (h : operation ≠ "") :
    encodeSlots {} (memberParts [] 0 (callValues query operation))
        [querySlot, operationSlot, variablesSlot] =
      .ok [(querySlot, .string query), (operationSlot, .string operation)] := by
  have hnone : encodeSlots {} (memberParts [] 0 (callValues query operation)) [] = .ok [] := rfl
  -- an empty map of variables has no content, so its member is left out
  have hvariables : encodeSlots {} (memberParts [] 0 (callValues query operation)) [variablesSlot] =
      .ok [] :=
    (encodeSlots_cons (s := variablesSlot) rfl rfl
      (encodeAs_emptyMap (.text .plain) (.interface .any) (variablesSlot.style {}) rfl) hnone).trans rfl
  have hoperation := encodeSlots_cons (s := operationSlot) rfl rfl
    (encodeAs_text operation (operationSlot.style {}) rfl) hvariables
  have hempty : (operationSlot.options.omitEmpty && (Json.string operation).isEmpty) = false := by
    simpa [operationSlot, Json.isEmpty] using h
  rw [hempty] at hoperation
  exact encodeSlots_cons (s := querySlot) rfl rfl (encodeAs_text query (querySlot.style {}) rfl) hoperation

end Value

/-- The body of a request without variables. -/
theorem Call.json_of_strings (query operation : String) (h : operation ≠ "") :
    Call.json ⟨Octets.ofString operation, Octets.ofString query, []⟩ =
      .ok (.object [("query", .string query), ("operationName", .string operation)]) := by
  have hrecord : Call.json ⟨Octets.ofString operation, Octets.ofString query, []⟩ =
      Value.unformatted {} (Value.encodeRecord {} (Value.memberTypes (callValues query operation))
        (Value.memberParts [] 0 (callValues query operation))) := by
    rw [Call.json, Value.encode, List.map_nil, Value.encodeAs]
    rfl
  rw [hrecord, Value.encodeRecord, RecordLayout.of?_callValues]
  simp only [RecordLayout.inOrder_callLayout, Value.encodeSlots_callValues query h]
  rfl

end Bindery
