/-
# The OpenAPI document

The description of the mail route that the gateway serves.  Names and paths come
from the definitions they describe.
-/

import MailGateway.Json.Document
import MailGateway.Log.Event
import MailGateway.Mail.Message
import MailGateway.Rest.Routes

namespace MailGateway
namespace Rest
namespace OpenApi

open Json.Document (text flag list object)

/-- A reference to the schema of a record. -/
def reference (shape : Json.RecordShape) : Json.Document :=
  object [("$ref", text ("#/components/schemas/" ++ shape.title))]

/-- A JSON body of a record. -/
def jsonContent (shape : Json.RecordShape) : Json.Document :=
  object [("application/json", object [("schema", reference shape)])]

/-- The schema of a record of one text field. -/
def schema (shape : Json.RecordShape) (description : String) : String × Json.Document :=
  (shape.title,
   object [("type", text "object"),
     ("properties", object [(shape.field,
       object [("type", text "string"), ("description", text description)])])])

/-- The name of the group that the route belongs to. -/
def tag : String := "EmailService"

/-- The licences of the program, as an expression. -/
def licence : String := "MIT OR Apache-2.0"

/-- The answers of the mail route. -/
def answers : Json.Document :=
  object
    [("200", object [("description", text "Message handled"),
       ("content", jsonContent Mail.Reply.shape)]),
     ("400", object [("description", text "Malformed request body")]),
     ("405", object [("description", text "Method not allowed")])]

/-- The mail route. -/
def operation : Json.Document :=
  object
    [("tags", list [text tag]),
     ("operationId", text "SendMail"),
     ("requestBody",
      object [("content", jsonContent Mail.Request.shape), ("required", flag true)]),
     ("responses", answers)]

/-- The whole document. -/
def document : Json.Document :=
  object
    [("openapi", text "3.1.0"),
     ("info",
      object
        [("title", text "email.proto"),
         ("description", text "REST gateway of the email service"),
         ("license", object [("name", text licence), ("identifier", text licence)]),
         ("version", text Log.version)]),
     ("paths", object [(Route.mailPath, object [("post", operation)])]),
     ("components",
      object
        [("schemas",
          object
            [schema Mail.Request.shape "Message to send",
             schema Mail.Reply.shape "Delivery error, empty when the message was accepted"])]),
     ("tags",
      list [object [("name", text tag), ("description", text "Email sending API")]])]

/-- The document as it is served. -/
def page : Bytes := document.layout 0

end OpenApi
end Rest
end MailGateway
