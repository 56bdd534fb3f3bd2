/-
# Request targets

A target is a path with a query, a full address, an authority (`host:port`), or a
lone asterisk.  Routing sees the path only: everything up to the query or the
fragment, byte for byte, with nothing decoded.  A full address without a path has
path `/`; an authority has none.
-/

namespace MailGateway
namespace Http

/-- The part before the query and the fragment. -/
def untilQuery (cs : List Char) : List Char := cs.takeWhile fun c => c ≠ '?' ∧ c ≠ '#'

/-- The rest behind `://`, if the target has it. -/
def behindScheme? : List Char → Option (List Char)
  | [] => none
  | ':' :: '/' :: '/' :: cs => some cs
  | _ :: cs => behindScheme? cs

/-- The path of a target. -/
def targetPath (target : String) : String :=
  match target.toList with
  | '/' :: cs => String.ofList (untilQuery ('/' :: cs))
  | ['*'] => "*"
  | cs =>
    match behindScheme? cs with
    | none => ""
    | some cs =>
      let path := untilQuery (cs.dropWhile fun c => c ≠ '/' ∧ c ≠ '?' ∧ c ≠ '#')
      if path.isEmpty then "/" else String.ofList path

example : targetPath "http://a:1/b/c?d" = "/b/c" := by decide +kernel
example : targetPath "a:1" = "" := by decide +kernel

end Http
end MailGateway
