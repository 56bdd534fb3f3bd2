/-
# Addresses of servers

A URI is an absolute path, an authority, or `scheme://authority` with a path behind it.
The scheme may be empty, the authority behind it may not.  An authority may hold a
percent sign only before `@` or inside brackets; colons other than that of the port only
there, too.
-/

import MailGateway.Text.Numeral

namespace MailGateway
namespace Http

/-- Why a text is no URI. -/
inductive UriFault where
  | character
  | authority
  | format
  | tooLong
  | empty
  | schemeTooLong
  deriving DecidableEq, Repr, Inhabited

/-- The text of a fault. -/
def UriFault.message : UriFault → String
  | .character => "invalid uri character"
  | .authority => "invalid authority"
  | .format => "invalid format"
  | .tooLong => "uri too long"
  | .empty => "empty string"
  | .schemeTooLong => "scheme too long"

/-- A URI.  A path without a slash at its front belongs to an authority alone. -/
structure Uri where
  scheme : Option String
  authority : String
  path : String
  deriving DecidableEq, Repr, Inhabited

namespace Uri

/-- A character of a scheme. -/
def isSchemeChar (c : Char) : Bool := c.isAlphanum || "+-.~".toList.contains c

/-- A character of an authority; a percent sign is looked at apart. -/
def isAuthorityChar (c : Char) : Bool :=
  c.isAlphanum || "!$&'()*+,-.:;=@[]_~".toList.contains c

/-- A character that ends an authority. -/
def endsAuthority (c : Char) : Bool := c = '/' || c = '?' || c = '#'

/-- A character of a path.  Quotes and braces should be encoded but are let through. -/
def isPathChar (c : Char) : Bool :=
  c = '!' || ('$' ≤ c && c ≤ ';') || c = '=' || ('@' ≤ c && c ≤ '_')
    || ('a' ≤ c && c ≤ '~') || c = '"'

/-- A character of a query. -/
def isQueryChar (c : Char) : Bool :=
  c = '!' || ('$' ≤ c && c ≤ ';') || c = '=' || ('?' ≤ c && c ≤ '~')

/-- What was seen of an authority since the last `@` or bracket. -/
structure AuthorityScan where
  colons : Nat := 0
  opened : Bool := false
  closed : Bool := false
  percent : Bool := false
  /-- The last character was `@`. -/
  atSign : Bool := false

/-- Takes in a character of an authority. -/
def AuthorityScan.step (s : AuthorityScan) (c : Char) : Except UriFault AuthorityScan :=
  let s := { s with atSign := false }
  if c = ':' then
    if 8 ≤ s.colons then .error .authority else .ok { s with colons := s.colons + 1 }
  else if c = '[' then
    if s.percent || s.opened then .error .authority else .ok { s with opened := true }
  else if c = ']' then
    if !s.opened || s.closed then .error .authority
    else .ok { s with closed := true, colons := 0, percent := false }
  else if c = '@' then .ok { s with colons := 0, percent := false, atSign := true }
  else if c = '%' then .ok { s with percent := true }
  else if isAuthorityChar c then .ok s
  else .error .character

/-- Checks an authority. -/
def checkAuthority (cs : List Char) : Except UriFault Unit := do
  let s ← cs.foldlM AuthorityScan.step {}
  if (s.opened != s.closed) || 1 < s.colons || s.atSign || s.percent then throw .authority

/-- The path and query in front of a fragment.  Characters outside ASCII are let through
if `foreign` is set. -/
def readPath (foreign : Bool) (cs : List Char) : Except UriFault String :=
  let cs := cs.takeWhile (· ≠ '#')
  let fits := fun (isFit : Char → Bool) (c : Char) => isFit c || (foreign && 0x7F ≤ c.toNat)
  let path := cs.takeWhile (· ≠ '?')
  let query := (cs.dropWhile (· ≠ '?')).drop 1
  if path.all (fits isPathChar) && query.all (fits isQueryChar) then .ok (String.ofList cs)
  else .error .character

/-- The scheme in front of `://`, and what follows it. -/
def readScheme (cs : List Char) : Except UriFault (Option (List Char × List Char)) :=
  let scheme := cs.takeWhile isSchemeChar
  match cs.dropWhile isSchemeChar with
  | ':' :: '/' :: '/' :: rest =>
    if cs.length ≤ 3 then .ok none
    else if 64 < scheme.length then .error .schemeTooLong
    else .ok (some (scheme, rest))
  | _ => .ok none

/-- Reads a URI. -/
def parse (foreign : Bool) (s : String) : Except UriFault Uri := do
  let cs := s.toList
  if 65534 < s.utf8ByteSize then throw .tooLong
  match cs with
  | [] => throw .empty
  | ['*'] => pure ⟨none, "", "*"⟩
  | '/' :: _ => pure ⟨none, "", ← readPath foreign cs⟩
  | [c] =>
    if endsAuthority c then throw .character
    checkAuthority cs
    pure ⟨none, s, ""⟩
  | _ =>
    let (scheme, rest) ← do
      match ← readScheme cs with
      | some (scheme, rest) => pure (some (String.ofList scheme), rest)
      | none => pure (none, cs)
    let authority := rest.takeWhile fun c => !endsAuthority c
    let path := rest.dropWhile fun c => !endsAuthority c
    checkAuthority authority
    match scheme with
    | none => if path.isEmpty then pure ⟨none, s, ""⟩ else throw .format
    | some _ =>
      if authority.isEmpty then throw .format
      pure ⟨scheme, String.ofList authority, ← readPath foreign path⟩

/-- The scheme in lower case. -/
def schemeName? (u : Uri) : Option String := u.scheme.map String.toLower

/-- The authority without what stands in front of the last `@`. -/
def place (u : Uri) : List Char :=
  (u.authority.toList.reverse.takeWhile (· ≠ '@')).reverse

/-- The host; brackets around it are not part of it. -/
def host (u : Uri) : String :=
  match u.place with
  | '[' :: cs => String.ofList (cs.takeWhile (· ≠ ']'))
  | cs => String.ofList (cs.takeWhile (· ≠ ':'))

/-- The host as it is written, with its brackets. -/
def writtenHost (u : Uri) : String :=
  if u.place.head? = some '[' then "[" ++ u.host ++ "]" else u.host

/-- The port that the authority names. -/
def namedPort? (u : Uri) : Option Nat :=
  let digits := (u.place.reverse.takeWhile (· ≠ ':')).reverse
  if u.place.contains ':' then (Numeral.natural? digits).filter (· < 65536) else none

/-- The port: the one that is named, or that of the scheme. -/
def port (u : Uri) : Nat :=
  u.namedPort?.getD (if u.schemeName? = some "https" then 443 else 80)

example : (parse false "://x").isOk = true := by decide +kernel
example : (parse false "http://").isOk = false := by decide +kernel

end Uri
end Http
end MailGateway
