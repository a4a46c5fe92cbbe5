import Rigor.Json.Reader
import Rigor.Text.Encoding
import Rigor.Text.Utf8

/-!
# Requests and responses

The part of a web request that the service looks at, and what it answers. The path of a request is
what stands before the query, with escaped bytes decoded. The body is read as JSON, in whichever
encoding its bytes show.
-/

namespace Rigor.Service

/-- The body of a request. -/
inductive Payload where
  /-- There is none. -/
  | empty
  /-- Bytes that are no text. -/
  | undecodable
  /-- A text that is not JSON. -/
  | malformed
  /-- A JSON value. -/
  | json (value : Json)

/-- The body that the characters of a text make up. -/
def Payload.ofChars (cs : List Char) : Payload :=
  match Json.parse? (String.ofList cs) with
  | some value => .json value
  | none => .malformed

/-- The body that is sent as the given text. Its bytes are read in the encoding that they show; in
the narrow one, a byte order mark in front is passed over. -/
def Payload.ofText (s : String) : Payload :=
  let cs := s.toList
  let bytes := cs.flatMap Text.bytesOf
  match Text.Encoding.detect bytes with
  | .narrow =>
    if cs.isEmpty then .empty
    else .ofChars (if cs.head? = some '\ufeff' then cs.tail else cs)
  | encoding =>
    match encoding.decode? bytes with
    | some cs => .ofChars cs
    | none => .undecodable

/-- A request. -/
structure Request where
  /-- The method. -/
  method : String
  /-- The path and query as sent. -/
  target : String
  /-- The body. -/
  payload : Payload

/-- A response. -/
structure Response where
  /-- The status code. -/
  status : Nat
  /-- The body; null stands for none. -/
  body : Json

/-- The bytes of a text in which `%` and two hexadecimal digits stand for a byte. -/
def unescapeBytes : List Char → List Nat
  | [] => []
  | '%' :: a :: b :: rest =>
    match Json.hexValue? a, Json.hexValue? b with
    | some high, some low => (high * 16 + low) :: unescapeBytes rest
    | _, _ => Text.bytesOf '%' ++ unescapeBytes (a :: b :: rest)
  | c :: rest => Text.bytesOf c ++ unescapeBytes rest

/-- The path of a request. -/
def Request.path (r : Request) : List Char :=
  Text.decodeLossy (unescapeBytes (r.target.toList.takeWhile (· != '?')))

end Rigor.Service
