import Candlestick.Http.Query
import Candlestick.Json.Reader

/-!
# Requests

A request of a client: a method, a path, the pairs of its query string, and perhaps a body with
the kind of its content. The body is the text that its bytes were found to be.
-/

namespace Candlestick.Http

/-- A request. An absent body is an empty one. -/
structure Request where
  method : String
  path : String
  query : List (String × String)
  body : String
  contentType : Option String
deriving DecidableEq, Repr

namespace Request

/-- The request for an address: a path, and behind a question mark a query string. -/
def toAddress (method address : String) (body : String) (contentType : Option String) :
    Request where
  method := method
  path := String.ofList (unescape (address.toList.takeWhile (· != '?')))
  query := parseQuery (String.ofList ((address.toList.dropWhile (· != '?')).drop 1))
  body := body
  contentType := contentType

/-- The kind of a content without its parameters, in lower case. -/
def mediaType (contentType : String) : String :=
  (String.ofList (Text.trimList Text.isBlank (contentType.toList.takeWhile (· != ';')))).toLower

/-- Whether a kind of content is JSON or built on JSON. -/
def isJsonType (contentType : String) : Bool :=
  match Text.splitList '/' (mediaType contentType).toList with
  | [main, sub] =>
    main == "application".toList && (sub == "json".toList || "+json".toList.isSuffixOf sub)
  | _ => false

/-- What the body of a request holds. -/
inductive Content where
  | none
  | json (value : Json)
  /-- The body should be JSON and is not: a problem at a place. -/
  | malformed (problem : Json.Problem) (index : Nat)
  | unreadable

/-- The content of a body of JSON. A byte order mark at its start does not count. -/
def jsonContent (body : String) : Content :=
  let chars :=
    match body.toList with
    | '\uFEFF' :: rest => rest
    | chars => chars
  match Json.Reader.document chars with
  | .ok value => .json value
  | .error (.syntaxError problem index) => .malformed problem index
  | .error (.tooManyDigits _) => .unreadable

/-- The content of a request. A body that is not declared as JSON is a text. -/
def content (r : Request) : Content :=
  if r.body == "" then .none
  else if (r.contentType.map isJsonType).getD false then jsonContent r.body
  else .json (.text r.body)

end Request

end Candlestick.Http
