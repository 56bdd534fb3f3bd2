/-
# Requests and answers

A request body arrives in pieces; what it says is their concatenation
(`Request.content`).  An answer holds bytes, or one of the two things whose exact
bytes are not this library's: the metrics page, known by its `Exposition`, and a
file of the API browser, known by its name.  How long these two are is a parameter
(`Sizes`), and so is the header that tells it (`Response.measured`).
-/

import MailGateway.Http.Header
import MailGateway.Http.Target
import MailGateway.Metrics.Exposition

namespace MailGateway
namespace Http

/-- Protocol versions. -/
inductive Version where
  | http09
  | http10
  | http11
  | http2
  | http3
  deriving DecidableEq, Repr, Inhabited

/-- A request as it arrives. -/
structure Request where
  method : String
  target : String
  version : Version
  headers : Headers
  pieces : List Bytes
  deriving Repr, Inhabited

/-- The path that is routed. -/
def Request.path (r : Request) : String := targetPath r.target

/-- The whole body. -/
def Request.content (r : Request) : Bytes := r.pieces.flatten

/-- What an answer carries. -/
inductive Content where
  | bytes (bs : Bytes)
  | exposition (page : Metrics.Exposition)
  | asset (file : String)
  deriving Repr, Inhabited

/-- An answer; trailers come behind the body. -/
structure Response where
  status : Nat
  headers : Headers
  content : Content
  trailers : Option Headers := none
  deriving Repr, Inhabited

/-- A header whose value is a text. -/
def field (name value : String) : String × Bytes := (name, Utf8.ascii value)

/-- An answer without a body, its length told. -/
def Response.empty (status : Nat) (headers : Headers) : Response :=
  ⟨status, headers ++ [field "content-length" "0"], .bytes [], none⟩

/-- An answer with a body of known type and length. -/
def Response.ofBytes (status : Nat) (type : String) (body : Bytes) : Response :=
  ⟨status, [field "content-type" type, field "content-length" (toString body.length)],
    .bytes body, none⟩

/-- The answer to a request for the headers only. -/
def Response.withoutBody (r : Response) : Response := { r with content := .bytes [] }

/-- The lengths of what is not given as bytes. -/
structure Sizes where
  page : Metrics.Exposition → Nat
  file : String → Nat

/-- How many bytes an answer carries. -/
def Content.length (z : Sizes) : Content → Nat
  | .bytes bs => bs.length
  | .exposition page => z.page page
  | .asset file => z.file file

/-- The header that tells the length of what an answer carries. -/
def Content.lengthField (z : Sizes) (c : Content) : String × Bytes :=
  field "content-length" (toString (c.length z))

/-- The answer with the length of a page or a file told. -/
def Response.measured (z : Sizes) (r : Response) : Response :=
  match r.content with
  | .bytes _ => r
  | content => { r with headers := r.headers ++ [content.lengthField z] }

end Http
end MailGateway
