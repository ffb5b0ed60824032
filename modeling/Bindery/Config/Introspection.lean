import Bindery.Client.Post
import Bindery.Config.Basic

/-!
# Schemas from servers

A server answers the introspection query with its schema.

## Main definitions

- `introspectionQuery` — the query
- `Endpoint.fetch` — asks a server for its schema
- `FetchError` — why there is no schema
-/

namespace Bindery

/-- The introspection query, line by line. It asks for types of which lists are nested up to seven
deep, each of them without null or not. -/
def introspectionLines : List String :=
  ["query IntrospectionQuery \x7b",
   "  __schema \x7b",
   "    queryType \x7b name \x7d",
   "    mutationType \x7b name \x7d",
   "    subscriptionType \x7b name \x7d",
   "    types \x7b",
   "      ...FullType",
   "    \x7d",
   "    directives \x7b",
   "      name",
   "      description",
   "      locations",
   "      args \x7b",
   "        ...InputValue",
   "      \x7d",
   "    \x7d",
   "  \x7d",
   "\x7d",
   "",
   "fragment FullType on __Type \x7b",
   "  kind",
   "  name",
   "  description",
   "  fields(includeDeprecated: true) \x7b",
   "    name",
   "    description",
   "    args \x7b",
   "      ...InputValue",
   "    \x7d",
   "    type \x7b",
   "      ...TypeRef",
   "    \x7d",
   "    isDeprecated",
   "    deprecationReason",
   "  \x7d",
   "  inputFields \x7b",
   "    ...InputValue",
   "  \x7d",
   "  interfaces \x7b",
   "    ...TypeRef",
   "  \x7d",
   "  enumValues(includeDeprecated: true) \x7b",
   "    name",
   "    description",
   "    isDeprecated",
   "    deprecationReason",
   "  \x7d",
   "  possibleTypes \x7b",
   "    ...TypeRef",
   "  \x7d",
   "\x7d",
   "",
   "fragment InputValue on __InputValue \x7b",
   "  name",
   "  description",
   "  type \x7b",
   "    ...TypeRef",
   "  \x7d",
   "  defaultValue",
   "\x7d",
   "",
   "fragment TypeRef on __Type \x7b",
   "  kind",
   "  name",
   "  ofType \x7b",
   "    kind",
   "    name",
   "    ofType \x7b",
   "      kind",
   "      name",
   "      ofType \x7b",
   "        kind",
   "        name",
   "        ofType \x7b",
   "          kind",
   "          name",
   "          ofType \x7b",
   "            kind",
   "            name",
   "            ofType \x7b",
   "              kind",
   "              name",
   "              ofType \x7b",
   "                kind",
   "                name",
   "              \x7d",
   "            \x7d",
   "          \x7d",
   "        \x7d",
   "      \x7d",
   "    \x7d",
   "  \x7d",
   "\x7d"]

/-- The introspection query. -/
def introspectionQuery : String :=
  String.join (introspectionLines.map (· ++ "\n"))

/-- Why a server gives no schema. -/
inductive FetchError where
  | post (error : PostError)
  | noTypes
  /-- The types have to be looked through for the type of queries, and an entry of them is empty, which
  stops the program. -/
  | emptyType

/-- The text of an error about a server, where `fault` words an error of JSON. -/
def FetchError.message (fault : Json.Fault → String) : FetchError → Octets
  | post e => Octets.ofString "introspection query failed: " ++ e.message fault
  | noTypes => Octets.ofString "introspection result contains no types"
  | emptyType => Octets.ofString "invalid memory address or nil pointer dereference"

/-- The schema of an answer, in which there has to be a type. If it does not say which type the queries
have, the type with the usual name is taken. -/
def Schema.complete (s : Schema) : Except FetchError Schema :=
  let types := s.types.toList
  if types.isEmpty then .error .noTypes
  else if s.queryType.isSome then .ok s
  else if types.contains none then .error .emptyType
  else if s.types.values.any (·.name == "Query") then .ok { s with queryType := some ⟨some "Query"⟩ }
  else .ok s

/-- The operation that asks for a schema. -/
def introspectionCall : Call where
  operation := Octets.ofString "IntrospectionQuery"
  query := Octets.ofString introspectionQuery
  values := []

/-- Asks a server for its schema. Returns the request that was sent, if any. -/
def Endpoint.fetch (e : Endpoint) (transport : Transport) :
    Option HttpRequest × Except FetchError Schema :=
  let client : Client := ⟨Octets.ofString e.url, e.header, transport⟩
  let (request, result) := client.post introspectionCall (some (.pointer (.schema default)))
  let schema := match result with
    | .error e => .error (.post e)
    | .ok (some (.pointer (.schema s))) => s.complete
    | .ok _ => .error .noTypes
  (request, schema)

end Bindery
