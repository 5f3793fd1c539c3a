import FragmentImports.Endpoint.Address
import FragmentImports.Endpoint.ContentCoding
import FragmentImports.Endpoint.Status
import FragmentImports.Json.Reader
import FragmentImports.Text.Basic
import FragmentImports.Text.Encoding

/-!
Asking a GraphQL endpoint to describe its schema: the request, what may come back for it, and how
the description is taken from a response.
-/

namespace FragmentImports.Endpoint

structure Request where
  url : String
  headers : OrderedMap String String
  deriving DecidableEq

structure SentRequest where
  address : Address
  headers : OrderedMap String String
  deriving DecidableEq

structure Response where
  status : Nat
  headers : OrderedMap String String
  body : ByteArray

/-- What comes of a request: no response for a reason that the connection gives, a fault that is
none of the connection's, or a response. -/
inductive Reply where
  | noResponse (reason : String)
  | aborted (fault : String)
  | response (response : Response)

inductive IntrospectionError where
  | requestFailed (url reason : String)
  | reported (errors : List Json)
  | noData (url : String)
  deriving BEq, Repr

/-- Faults that are not told as failures of introspection. -/
inductive EndpointError where
  | introspection (error : IntrospectionError)
  | aborted (fault : String)
  | notAscii
  | badAddress (fault : AddressFault)
  | badName (fault : DomainName.Fault)
  | noHost
  | notText
  | notJson
  | longNumber
  | tooDeep
  | notObject
  /-- A value has to be a collection or a text. -/
  | unsuitable
  deriving BEq, Repr

def headerValue? (headers : OrderedMap String String) (name : String) : Option String :=
  match headers.entries.filter fun header => header.1.toLower = name.toLower with
  | [] => none
  | found => some (", ".intercalate (found.map Prod.snd))

def areAscii (headers : OrderedMap String String) : Bool :=
  headers.entries.all fun (name, value) =>
    DomainName.isAscii name.toList && DomainName.isAscii value.toList

namespace Request

def describe (url : String) (headers : List (String × String)) : Request :=
  ⟨url, .ofList (("Content-Type", "application/json") :: headers)⟩

def authorization : String := "Authorization"

def headersFor (request : Request) (address : Address) : OrderedMap String String :=
  match address.credentials? with
  | none => request.headers
  | some credentials =>
      let others := request.headers.entries.filter fun header =>
        header.1.toLower ≠ authorization.toLower
      .ofList (others ++ [(authorization, "Basic " ++ String.ofList (Base64.encode credentials))])

/-- The request as it leaves. Without a scheme and a host only the path is left of an address. -/
def sent (request : Request) : Except EndpointError SentRequest := do
  unless areAscii request.headers do throw .notAscii
  let address ← (Address.read request.url.toList).mapError .badAddress
  let address ←
    if address.isAbsolute then pure address else address.relative.mapError .badAddress
  unless DomainName.isAscii address.host do throw .notAscii
  return ⟨address, request.headersFor address⟩

end Request

namespace SentRequest

def url (request : SentRequest) : String := String.ofList request.address.render

end SentRequest

namespace Response

def location? (response : Response) : Option String :=
  if isRedirection response.status then headerValue? response.headers "location" else none

def refusal (response : Response) (url : String) : String :=
  let redirect := match response.location? with
    | some location => "\nRedirect location: '" ++ location ++ "'"
    | none => ""
  statusWords response.status ++ " '" ++ toString response.status ++ " "
    ++ reasonPhrase response.status ++ "' for url '" ++ url ++ "'" ++ redirect
    ++ "\nFor more information check: " ++ explanation response.status

def plainBody (response : Response) : Except ContentCoding.Fault ByteArray :=
  let codings := ((headerValue? response.headers "content-encoding").map ContentCoding.ofHeader)
  ContentCoding.decodeAll (codings.getD []) response.body

end Response

namespace IntrospectionError

def reportedMessage : Json → String
  | .object members =>
      match Json.lookup? members "message" with
      | some (.string message) => message
      | _ => (Json.object members).literal
  | other => other.literal

def message : IntrospectionError → String
  | requestFailed url reason => "Introspection request to " ++ url ++ " failed: " ++ reason
  | reported errors => "GraphQL errors: " ++ "; ".intercalate (errors.map reportedMessage)
  | noData url => "No introspection data returned from " ++ url

def errors : IntrospectionError → List Json
  | reported errors => errors
  | _ => []

end IntrospectionError

def descriptionKey : String := "__schema"

def isObject : Json → Bool
  | .object _ => true
  | _ => false

def hasTextMessage : Json → Bool
  | .object members =>
      match Json.lookup? members "message" with
      | none | some (.string _) => true
      | some _ => false
  | _ => false

def ofReported : Json → EndpointError
  | .array errors =>
      if !errors.all isObject then .notObject
      else if !errors.all hasTextMessage then .unsuitable
      else .introspection (.reported errors)
  | .string _ | .object _ => .notObject
  | _ => .unsuitable

def occursIn (part : List Char) : List Char → Bool
  | [] => part.isEmpty
  | c :: rest => part.isPrefixOf (c :: rest) || occursIn part rest

/-- Whether a value answers for the description: an object with the key, a text or a list that
contains it. -/
def mentionsDescription : Json → Except EndpointError Bool
  | .object members => .ok (Json.lookup? members descriptionKey).isSome
  | .array items => .ok (items.any fun
      | .string item => item = descriptionKey
      | _ => false)
  | .string text => .ok (occursIn descriptionKey.toList text.toList)
  | _ => .error .unsuitable

def dataOf (url : String) : Json → Except EndpointError Json
  | .object members => do
      let reported := (Json.lookup? members "errors").getD .null
      if !reported.isEmpty then throw (ofReported reported)
      let data := (Json.lookup? members "data").getD .null
      if data.isEmpty then throw (.introspection (.noData url))
      if ← mentionsDescription data then return data
      throw (.introspection (.noData url))
  | _ => .error .notObject

def bodyDialect : Json.Dialect :=
  { depth := 985, loneHalves := true, fits := fun _ isWhole size => !isWhole || size ≤ 4300 }

def bodyValue (body : ByteArray) : Except EndpointError Json :=
  match textOfBytes? body.toList with
  | none => .error .notText
  | some text =>
      match Json.parse bodyDialect text with
      | .ok value => .ok value.unifyKeys
      | .error .malformed => .error .notJson
      | .error .longNumber => .error .longNumber
      | .error .tooDeep => .error .tooDeep

/-- Checks that one could ask where a redirection leads: from an address to a location, which takes
the host of the address if it has a scheme and no host. -/
def checkRedirection (url : String) (address : Address) (location : String) :
    Except EndpointError Unit := do
  match Address.read location.toList with
  | .error fault =>
      throw (.introspection (.requestFailed url
        ("Invalid URL in location header: " ++ fault.message ++ ".")))
  | .ok target =>
      target.checkName.mapError .badName
      address.checkName.mapError .badName
      if target.scheme ≠ [] ∧ target.host = [] then
        ({ target with host := address.host }.checkPath).mapError .badAddress

def Response.value (response : Response) (url : String) (sent : SentRequest) :
    Except EndpointError Json := do
  let failed (reason : String) : EndpointError := .introspection (.requestFailed url reason)
  unless areAscii response.headers do throw .notAscii
  let body ← response.plainBody.mapError fun fault => failed fault.message
  unless sent.address.isAbsolute do throw .noHost
  response.location?.forM (checkRedirection url sent.address)
  unless isSuccess response.status do throw (failed (response.refusal sent.url))
  bodyValue body

/-- How endpoints answer. -/
abbrev Network := SentRequest → Reply

def fetch (network : Network) (request : Request) : Except EndpointError Json := do
  let sent ← request.sent
  match network sent with
  | .noResponse reason => throw (.introspection (.requestFailed request.url reason))
  | .aborted fault => throw (.aborted fault)
  | .response response => dataOf request.url (← response.value request.url sent)

end FragmentImports.Endpoint
