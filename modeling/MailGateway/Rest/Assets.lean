/-
# Files of the API browser

The files are part of the program; here they are names with media types.
-/

import MailGateway.Http.Percent
import MailGateway.Http.Message

namespace MailGateway
namespace Rest
namespace Assets

/-- The name of the start page. -/
def start : String := "index.html"

/-- All files with their types. -/
def files : List (String × String) :=
  [("favicon-16x16.png", "image/png"),
   ("favicon-32x32.png", "image/png"),
   ("index.css", "text/css"),
   (start, "text/html"),
   ("oauth2-redirect.html", "text/html"),
   ("swagger-initializer.js", "text/javascript"),
   ("swagger-ui-bundle.js", "text/javascript"),
   ("swagger-ui-bundle.js.map", "application/json"),
   ("swagger-ui-es-bundle-core.js", "text/javascript"),
   ("swagger-ui-es-bundle-core.js.map", "application/json"),
   ("swagger-ui-es-bundle.js", "text/javascript"),
   ("swagger-ui-es-bundle.js.map", "application/json"),
   ("swagger-ui-standalone-preset.js", "text/javascript"),
   ("swagger-ui-standalone-preset.js.map", "application/json"),
   ("swagger-ui.css", "text/css"),
   ("swagger-ui.css.map", "application/json"),
   ("swagger-ui.js", "text/javascript"),
   ("swagger-ui.js.map", "application/json")]

/-- The answer for a file name; no name, and a lone slash, mean the start page. -/
def answer (name : String) : Http.Response :=
  let name := if name = "" ∨ name = "/" then start else name
  match files.lookup name with
  | some type => { status := 200, headers := [Http.field "content-type" type],
                   content := .asset name }
  | none => .empty 404 []

/-- The answer for the rest of a path, in which bytes may be percent-encoded. -/
def answerEncoded (rest : String) : Http.Response :=
  match Utf8.decode? (Http.Percent.decode (Utf8.encode rest)) with
  | some name => answer name
  | none =>
    .ofBytes 400 "text/plain; charset=utf-8" (Utf8.ascii "Invalid URL: Invalid UTF-8 in `rest`")

end Assets
end Rest
end MailGateway
