import IssueSync.Data.Value
import IssueSync.Text.Utf8

/-!
# Requests and replies

What goes to a server and what comes back: a request has a method, a URL without its query,
query parameters, an optional bearer credential and a body (none, a JSON document or form
fields); a reply has a status, headers and a body; a request may also fail before any reply,
with a message.
-/

namespace IssueSync.Remote

/-- The body of a request. -/
inductive Payload where
  | none
  | json (v : Value)
  | form (fields : List (String × String))

/-- A request to a server. -/
structure Request where
  method : String
  url : String
  params : List (String × String) := []
  auth : Option String := none
  payload : Payload := .none

/-- The body of a reply. -/
inductive Body where
  | empty
  | json (v : Value)
  | text (t : String)
  | bytes (data : ByteArray)

/-- A reply of a server. -/
structure Reply where
  status : Nat := 200
  headers : List (String × String) := []
  body : Body := .empty

/-- What a request meets: a reply, or a failure of the connection with its message. -/
inductive Answer where
  | reply (r : Reply)
  | fail (message : String)

namespace Reply

/-- A header by name, compared without case. -/
def header? (r : Reply) (name : String) : Option String :=
  (r.headers.find? fun (k, _) => k.toLower == name.toLower).map (·.2)

/-- A status of success: 200 to 299. -/
def isSuccess (r : Reply) : Bool := 200 ≤ r.status && r.status < 300

/-- A redirection that names where to go. -/
def redirectsTo? (r : Reply) : Option String :=
  if [301, 302, 303, 307, 308].contains r.status then r.header? "location" else none

end Reply

/-- The value of a hexadecimal digit. -/
def hexValue? (c : Char) : Option Nat :=
  if '0' ≤ c && c ≤ '9' then some (c.toNat - 48)
  else if 'a' ≤ c && c ≤ 'f' then some (c.toNat - 87)
  else if 'A' ≤ c && c ≤ 'F' then some (c.toNat - 55)
  else none

/-- The bytes of percent-encoded text: `%` and two hexadecimal digits stand for a byte, and with
`plusIsSpace` a `+` stands for a space. -/
def unescapeBytes (plusIsSpace : Bool) : List Char → List UInt8
  | '%' :: a :: b :: rest =>
    match hexValue? a, hexValue? b with
    | some x, some y => (x * 16 + y).toUInt8 :: unescapeBytes plusIsSpace rest
    | _, _ => '%'.toNat.toUInt8 :: unescapeBytes plusIsSpace (a :: b :: rest)
  | '+' :: rest =>
    (if plusIsSpace then ' ' else '+').toNat.toUInt8 :: unescapeBytes plusIsSpace rest
  | c :: rest => c.toString.toUTF8.toList ++ unescapeBytes plusIsSpace rest
  | [] => []

/-- Percent-decoded text; bytes that form no UTF-8 character read as replacement characters. -/
def unescape (plusIsSpace : Bool) (s : String) : String :=
  Text.decodeLenient (ByteArray.mk (unescapeBytes plusIsSpace s.toList).toArray)

/-- The name-value pairs of a query; pairs with an empty value are left out. -/
def queryPairs (query : String) : List (String × String) :=
  (query.splitOn "&").filterMap fun part =>
    match part.splitOn "=" with
    | [] => none
    | name :: rest =>
      let value := "=".intercalate rest
      if rest.isEmpty || value.isEmpty then none
      else some (unescape true name, unescape true value)

/-- A URL split at its query: the part before `?` and the query's pairs. -/
def splitQuery (url : String) : String × List (String × String) :=
  let noFragment := (url.splitOn "#").headD url
  match noFragment.splitOn "?" with
  | base :: rest => (base, if rest.isEmpty then [] else queryPairs ("?".intercalate rest))
  | [] => (noFragment, [])

/-- The scheme and authority of a URL (`http://host:port`), and the rest. -/
def splitOrigin (url : String) : String × String :=
  match url.splitOn "://" with
  | scheme :: rest =>
    if rest.isEmpty then ("", url)
    else
      let after := ("://".intercalate rest).toList
      let host := after.takeWhile (· != '/')
      (scheme ++ "://" ++ String.ofList host, String.ofList (after.drop host.length))
  | [] => ("", url)

end IssueSync.Remote
