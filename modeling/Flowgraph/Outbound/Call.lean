import Flowgraph.Method
import Flowgraph.Registry.Populate
import Flowgraph.Registry.PropertyTypes
import Flowgraph.Template
import Flowgraph.Url.Reader
import Flowgraph.Value.Coerce
/-!
# Outbound calls

An outbound call in its evaluated parts, the request that it stands for, and what may be wrong
with it. A request that is in order is handed to a transport, which belongs to the host.

Main definitions: `CallError`, `Method.ofName`, `Url.build`, `fillPath`, `Call`, `Call.ofBag`,
`RequestSpec.resolve`, `Call.toRequest`.
-/

namespace Flowgraph

/-- What may be wrong with a call before it is sent. -/
inductive CallError where
  | invalidUrl (url : String) (cause : UrlError)
  | invalidHeader (name : String)
  | invalidMethod (name : String)

/-- The message of an error. -/
def CallError.message : CallError → String
  | invalidUrl url cause =>
    let reason := cause.message
    s!"invalid url '{url}': {reason}"
  | invalidHeader name => s!"invalid header '{name}'"
  | invalidMethod name => s!"unsupported http method '{name}'"

/-- The message of an error followed by that of its cause, if it has one. -/
def CallError.messageWithCause (error : CallError) : String :=
  match error with
  | invalidUrl _ cause => error.message ++ ": " ++ cause.message
  | _ => error.message

/-! ## Methods -/

/-- The method of a name in any case, blanks around it aside. -/
def Method.ofName (s : String) : Except CallError Method :=
  let upper := Text.asciiUpper (Text.trim s)
  match Method.all.find? fun method => method.name = upper with
  | some method => .ok method
  | none => .error (.invalidMethod upper)

/-! ## Addresses -/

/-- A base address with a path behind it, one slash between; a blank path adds nothing. -/
def joinPath (base : String) (path : Option String) : String :=
  match path.map fun path => Text.trimBoth path.toList with
  | none | some [] => base
  | some path =>
    String.ofList (Text.dropEndWhile (· = '/') base.toList ++ '/' :: path.dropWhile (· = '/'))

/-- The query parameters of one entry: none for null, one for each item of a list that is not
null, one for any other value. -/
def parametersOf (entry : String × Value) : List (String × String) :=
  match entry.2 with
  | .null => []
  | .list items => (items.filter fun v => !v.isNull).map fun v => (entry.1, v.stringify)
  | v => [(entry.1, v.stringify)]

/-- The address of a call: base, path and query parameters. -/
def Url.build (base : String) (path : Option String) (query : Value.Fields) :
    Except CallError Url :=
  let joined := joinPath base path
  match Url.read joined with
  | .error cause => .error (.invalidUrl joined cause)
  | .ok url =>
    if query.isEmpty then .ok url else .ok (url.withParameters (query.flatMap parametersOf))

/-- A path with the name of each parameter in braces replaced by its encoded text. -/
def fillPath (template : String) (parameters : Value.Fields) : String :=
  String.ofList <|
    parameters.foldl
      (fun path (k, v) =>
        Text.replaceAll ('\x7b' :: (k.toList ++ ['\x7d'])) (Percent.encodeAll v.stringify).toList
          path)
      template.toList

/-! ## Calls -/

/-- An outbound call in its evaluated parts. -/
structure Call where
  url : Option String := none
  path : Option String := none
  method : Option String := none
  headers : Value.Fields := []
  queryArgs : Value.Fields := []
  body : Option Value := none

namespace Call

/-- The call of some populated fields; a blank address is none, and the path is filled from the
path parameters. -/
def ofBag (bag : FieldBag) : Call where
  url := (bag.text? "url").filter fun url => !Text.isBlankText url
  path := (bag.text? "path").map fun path => fillPath path (bag.map "pathParameters")
  method := bag.text? "method"
  headers := bag.map "headers"
  queryArgs := bag.map "queryArgs"
  body := bag.json? "body"

end Call

/-- The call of a request property: its merged properties are evaluated, then populated. -/
def RequestSpec.resolve (spec : RequestSpec) (context : Context) (scope : PopulateScope) : Call :=
  Call.ofBag <|
    scope.populateMap PropertyTypes.requestSpec.fields (spec.typeId.getD "RequestSpec")
      (Template.evaluateFields context spec.properties)

/-! ## Requests -/

/-- A request that is in order. -/
structure Request where
  method : Method
  url : Url
  headers : List (String × String) := []
  body : Option Value := none

/-- Whether a character may stand in the name of a header. -/
def isHeaderNameChar (c : Char) : Bool :=
  c.isAlphanum || "!#$%&'*+-.^_`|~".toList.contains c

/-- Whether a text is the name of a header. -/
def isHeaderName (s : String) : Bool :=
  !s.isEmpty && s.length < 0x10000 && s.toList.all isHeaderNameChar

/-- Whether a text may be the value of a header. -/
def isHeaderValue (s : String) : Bool :=
  s.toList.all fun c => c = '\t' || (32 ≤ c.toNat && c.toNat ≠ 127)

namespace Request

/-- The first header that is not in order. -/
def invalidHeader? (request : Request) : Option CallError :=
  (request.headers.find? fun (name, value) => !(isHeaderName name && isHeaderValue value)).map
    fun (name, _) => .invalidHeader name

/-- The method and address of a request, for messages. -/
def describe (request : Request) : String :=
  request.method.name ++ " " ++ request.url.render

end Request

/-- The headers of a call that are not null, as texts. -/
def Call.headerTexts (call : Call) : List (String × String) :=
  (call.headers.filter fun (_, v) => !v.isNull).map fun (name, v) => (name, v.stringify)

/-- The request of a call with a method and a base address. -/
def Call.toRequest (call : Call) (method base : String) : Except CallError Request := do
  let method ← Method.ofName method
  let url ← Url.build base call.path call.queryArgs
  return { method, url, headers := call.headerTexts, body := call.body }

end Flowgraph
