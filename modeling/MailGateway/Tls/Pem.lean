/-
# Certificates and keys in text form

A section stands between a line `-----BEGIN label-----` and a line that begins with
`-----END label-----`; its lines hold bytes in 64 characters.  Other lines do not matter,
nor do sections with a label that is not known.  A section that begins inside another
gives it a new label and keeps its lines; one that does not end is a fault.
-/

import MailGateway.Text.Base64

namespace MailGateway
namespace Tls

/-- What a section holds. -/
inductive SectionKind where
  | certificate
  | publicKey
  | rsaKey
  | wrappedKey
  | ecKey
  | revocationList
  | certificateRequest
  | echConfig
  deriving DecidableEq, Repr, Inhabited

/-- The kind of a label. -/
def SectionKind.ofLabel? (label : String) : Option SectionKind :=
  [("CERTIFICATE", certificate), ("PUBLIC KEY", publicKey), ("RSA PRIVATE KEY", rsaKey),
   ("PRIVATE KEY", wrappedKey), ("EC PRIVATE KEY", ecKey), ("X509 CRL", revocationList),
   ("CERTIFICATE REQUEST", certificateRequest), ("ECHCONFIG", echConfig)].lookup label

/-- Whether a section of the kind holds a private key. -/
def SectionKind.isKey : SectionKind → Bool
  | .rsaKey | .wrappedKey | .ecKey => true
  | _ => false

/-- A section. -/
structure Section where
  kind : SectionKind
  content : Bytes
  deriving DecidableEq, Repr, Inhabited

namespace Pem

/-- Cuts text into lines; a carriage return ends a line, too. -/
def lines (cs : List Char) : List (List Char) :=
  match cs with
  | [] => [[]]
  | c :: rest =>
    if c = '\n' || c = '\r' then [] :: lines rest
    else
      match lines rest with
      | first :: others => (c :: first) :: others
      | [] => [[c]]

/-- What begins the line in front of a section. -/
def opening : List Char := "-----BEGIN ".toList

/-- The label of the line in front of a section, if the line ends well: with five dashes,
among which blanks do not count. -/
def label? (line : List Char) : Option (List Char) :=
  let tail := line.reverse.takeWhile fun c => c = '-' || c = ' '
  if tail.count '-' = 5 then
    some ((line.take (line.length - (tail.reverse.dropWhile (· = ' ')).length)).drop
      opening.length)
  else none

/-- Whether a line ends a section. -/
def isEnd (label line : List Char) : Bool :=
  ("-----END ".toList ++ label ++ "-----".toList).isPrefixOf line

/-- A section in progress: its label, if there is one, and the lines held so far, the last
first. -/
structure Progress where
  label : Option (List Char) := none
  held : List (List Char) := []
  deriving DecidableEq, Repr, Inhabited

/-- The bytes of a section's lines. -/
def content? (lines : List (List Char)) : Option Bytes :=
  Base64.decode? (lines.reverse.flatten.filter fun c => !(c = ' ' || c = '\t'))

/-- Reads lines; a fault is `none`, and what follows is read anew. -/
def readLines (p : Progress) : List (List Char) → List (Option Section)
  | [] => if p.label.isSome then [none] else []
  | line :: rest =>
    if opening.isPrefixOf line then
      match label? line with
      | some label => readLines ⟨some label, p.held⟩ rest
      | none => none :: readLines {} rest
    else
      match p.label with
      | none => readLines p rest
      | some label =>
        if isEnd label line then
          match SectionKind.ofLabel? (String.ofList label) with
          | none => readLines {} rest
          | some kind => (content? p.held).map (⟨kind, ·⟩) :: readLines {} rest
        else readLines ⟨some label, line :: p.held⟩ rest

/-- The sections of a text and its faults. -/
def entries (text : String) : List (Option Section) := readLines {} (lines text.toList)

/-- The sections of a text without faults. -/
def sections? (text : String) : Option (List Section) := (entries text).mapM id

end Pem
end Tls
end MailGateway
