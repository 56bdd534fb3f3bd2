/-
# The names of servers

What a server has to prove is a name of dotted labels or a numeric address.  A label has up to
63 letters, digits, underscores and hyphens, no hyphen at either end, and the last label is no
number.  A single dot may stand behind it.
-/

import MailGateway.Net.Resolve

namespace MailGateway
namespace Tls
namespace ServerName

/-- Whether characters are a label. -/
def isLabel (cs : List Char) : Bool :=
  !cs.isEmpty && cs.length ≤ 63 && cs.all (fun c => c.isAlphanum || c = '_' || c = '-')
    && cs.head? ≠ some '-' && cs.getLast? ≠ some '-'

/-- Whether characters are a name of labels. -/
def isDomain (cs : List Char) : Bool :=
  let parts := Net.cutAt '.' cs
  let labels := if parts.getLast? = some [] then parts.dropLast else parts
  cs.length ≤ 253 && labels.all isLabel && labels.getLast?.any fun label => !label.all Char.isDigit

/-- Whether a server may have the name. -/
def isValid (name : String) : Bool :=
  isDomain name.toList || (Net.V4.quad? name.toList).isSome || (Net.V6.parse? name.toList).isSome

example : isValid "mail.example." = true := by decide +kernel
example : isValid "1.2.3" = false := by decide +kernel

end ServerName
end Tls
end MailGateway
