import Flowgraph.Url.Host
import Flowgraph.Value.Printer
/-!
# URLs

A URL in its parts, with the written form of the whole and the operations that calls need: a key
for the server that answers it, and further query parameters.

Main definitions: `Url`, `Url.render`, `Url.serverKey`, `Url.withParameters`.
-/

namespace Flowgraph

/-- What stands between the double slash of a URL and its path. -/
structure Authority where
  /-- User name and password as they are written, without the at sign. -/
  userInfo : Option (List Char) := none
  host : Host
  port : Option Nat := none
  deriving DecidableEq

/-- The path of a URL: segments behind slashes, or one text under a scheme without slashes. -/
inductive UrlPath where
  | segments (names : List (List Char))
  | plain (text : List Char)
  deriving DecidableEq

/-- A URL. -/
structure Url where
  scheme : String
  authority : Option Authority := none
  path : UrlPath
  query : Option (List Char) := none
  fragment : Option (List Char) := none
  deriving DecidableEq

namespace Url

/-- The special schemes with their usual ports. -/
def specialPorts : List (String × Option Nat) :=
  [("http", some 80), ("https", some 443), ("ws", some 80), ("wss", some 443), ("ftp", some 21),
    ("file", none)]

/-- Whether a scheme is special. -/
def isSpecial (scheme : String) : Bool :=
  Keyed.has scheme specialPorts

/-- The usual port of a scheme. -/
def defaultPort? (scheme : String) : Option Nat :=
  (Keyed.get? scheme specialPorts).join

/-! ## Written form -/

/-- The written form of an authority. -/
def Authority.render (a : Authority) : List Char :=
  '/' :: '/' ::
    ((a.userInfo.map fun info => info ++ ['@']).getD [] ++ a.host.render ++
      (a.port.map fun port => ':' :: Number.digits port).getD [])

/-- The written form of a path. Without an authority, a path whose first segment is empty and is
not the only one has a dot in front. -/
def renderPath (hasAuthority : Bool) : UrlPath → List Char
  | .plain text => text
  | .segments names =>
    let slashed := names.flatMap fun name => '/' :: name
    match hasAuthority, names with
    | false, [] :: _ :: _ => '/' :: '.' :: slashed
    | _, _ => slashed

/-- A part behind its mark, if there is one. -/
def marked (mark : Char) (part : Option (List Char)) : List Char :=
  (part.map fun cs => mark :: cs).getD []

/-- The written form of a URL. -/
def renderChars (url : Url) : List Char :=
  url.scheme.toList ++ ':' :: ((url.authority.map Authority.render).getD [] ++
    renderPath url.authority.isSome url.path ++ marked '?' url.query ++ marked '#' url.fragment)

/-- The written form of a URL as a text. -/
def render (url : Url) : String :=
  String.ofList url.renderChars

/-! ## Servers and query parameters -/

/-- The scheme, host and port that a URL is answered by; two URLs with the same key share a
client. -/
def serverKey (url : Url) : String :=
  let host := (url.authority.map fun a => a.host.render).getD []
  let port := ((url.authority.bind fun a => a.port).or (defaultPort? url.scheme)).getD 0
  url.scheme ++ "://" ++ String.ofList host ++ ":" ++ String.ofList (Number.digits port)

/-- A parameter as it is written in a query. -/
def renderParameter (parameter : String × String) : List Char :=
  Percent.encodeForm parameter.1 ++ '=' :: Percent.encodeForm parameter.2

/-- Appends one parameter to a query. -/
def appendParameter (query : List Char) (parameter : String × String) : List Char :=
  if query.isEmpty then renderParameter parameter else query ++ '&' :: renderParameter parameter

/-- The URL with parameters appended to its query, which is there from then on. -/
def withParameters (url : Url) (parameters : List (String × String)) : Url :=
  { url with query := some (parameters.foldl appendParameter (url.query.getD [])) }

end Url

end Flowgraph
