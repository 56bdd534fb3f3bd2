/-
# Certificates

A certificate is a signed part, the name of the algorithm that signed it and the
signature.  What is read of the signed part: that it has version three, that it names
the same algorithm, its public key, and its extensions.  The known extensions may stand
once, and all but the first hold a sequence; one that is not known must not be critical.

A certificate that is trusted itself may also be of version one, which has no number of a
version and no extensions.
-/

import MailGateway.Tls.Der

namespace MailGateway
namespace Tls

/-- Why a certificate cannot be used. -/
inductive CertificateFault where
  | encoding
  | version
  | algorithm
  | criticalExtension
  | repeatedExtension
  deriving DecidableEq, Repr, Inhabited

/-- The text of a fault. -/
def CertificateFault.message : CertificateFault → String
  | .encoding => "BadEncoding"
  | .version => "Other(OtherError(UnsupportedCertVersion))"
  | .algorithm => "Other(OtherError(SignatureAlgorithmMismatch))"
  | .criticalExtension => "Other(OtherError(UnsupportedCriticalExtension))"
  | .repeatedExtension => "Other(OtherError(ExtensionValueInvalid))"

/-- An extension. -/
structure Extension where
  name : Bytes
  critical : Bool
  value : Bytes
  deriving DecidableEq, Repr, Inhabited

namespace Extension

/-- Reads an extension. -/
def read (bs : Bytes) : Option (Extension × Bytes) := do
  let (name, rest) ← Der.read Der.nameTag bs
  let (flag, rest) ← Der.readOptional Der.booleanTag rest
  let (value, rest) ← Der.read Der.octetsTag rest
  match flag with
  | none | some [0x00] => some (⟨name, false, value⟩, rest)
  | some [0xFF] => some (⟨name, true, value⟩, rest)
  | _ => none

/-- The names of the known extensions end in these numbers: the use of the key, other
names, limits, limits of names, where lists of revoked certificates are, and further
uses. -/
def known : List UInt8 := [15, 17, 19, 30, 31, 37]

/-- The number that the name of a known extension ends in. -/
def number? (e : Extension) : Option UInt8 :=
  match e.name with
  | [0x55, 0x1D, n] => if n ∈ known then some n else none
  | _ => none

/-- The numbers of the known extensions so far and an extension after them. -/
def note (e : Extension) (seen : List UInt8) : Except CertificateFault (List UInt8) :=
  match e.number? with
  | none => if e.critical then .error .criticalExtension else .ok seen
  | some n =>
    if n ∈ seen then .error .repeatedExtension
    else if n ≠ 15 && (Der.readAll Der.sequenceTag e.value).isNone then .error .encoding
    else .ok (n :: seen)

/-- Checks extensions, with the numbers of the known ones in front of them. -/
def check (seen : List UInt8) : List Bytes → Except CertificateFault Unit
  | [] => .ok ()
  | bs :: rest =>
    match read bs with
    | none => .error .encoding
    | some (e, more) => do
      let seen ← e.note seen
      if more.isEmpty then check seen rest else throw .encoding

end Extension

/-- A certificate, as far as a server reads its own: the public key that it is about. -/
structure Certificate where
  publicInfo : Bytes
  deriving DecidableEq, Repr, Inhabited

namespace Certificate

/-- What has to be there, or the encoding is wrong. -/
def need {α : Type} (value : Option α) : Except CertificateFault α :=
  match value with
  | some a => .ok a
  | none => .error .encoding

/-- Reads a version: the third is numbered two. -/
def readVersion (bs : Bytes) : Except CertificateFault Bytes := do
  match Der.read 0xA0 bs with
  | none => throw .version
  | some (content, rest) =>
    let (version, more) ← need (Der.readNatural content)
    if 255 < version then throw .encoding
    else if version ≠ 2 || !more.isEmpty then throw .version
    else pure rest

/-- Reads what follows the public key. -/
def readExtensions (bs : Bytes) : Except CertificateFault Unit := do
  if bs.isEmpty then pure ()
  else
    let (content, rest) ← need (Der.read 0xA3 bs)
    let (list, more) ← need (Der.read Der.sequenceTag content)
    let (extensions, whole) := Der.readMany Der.sequenceTag list.length list
    Extension.check [] extensions
    if whole && more.isEmpty && rest.isEmpty then pure () else throw .encoding

/-- Reads the signed part of a certificate with the name of its algorithm. -/
def readSigned (algorithm signed : Bytes) : Except CertificateFault Certificate := do
  let rest ← readVersion signed
  let (_, rest) ← need (Der.read Der.integerTag rest)
  let (named, rest) ← need (Der.read Der.sequenceTag rest)
  if named ≠ algorithm then throw .algorithm
  let (_, rest) ← need (Der.read Der.sequenceTag rest)
  let (_, rest) ← need (Der.read Der.sequenceTag rest)
  let (_, rest) ← need (Der.read Der.sequenceTag rest)
  let (info, rest) ← need (Der.read Der.sequenceTag rest)
  readExtensions rest
  pure ⟨Der.write Der.sequenceTag info⟩

/-- The content of a certificate is shorter than this. -/
def sizeLimit : Nat := 0xFFFF

/-- Reads a certificate. -/
def read (bs : Bytes) : Except CertificateFault Certificate := do
  let content ← need (Der.readAll Der.sequenceTag bs)
  let (signed, rest) ← need (Der.read Der.sequenceTag content)
  let (algorithm, rest) ← need (Der.read Der.sequenceTag rest)
  let signature ← need (Der.readAll Der.bitsTag rest)
  if content.length < sizeLimit && signature.head? = some 0 then readSigned algorithm signed
  else throw .encoding

/-- Skips values of tags. -/
def skip? (tags : List UInt8) (bs : Bytes) : Option Bytes :=
  tags.foldlM (fun bs tag => (Der.read tag bs).map (·.2)) bs

/-- Whether bytes are a certificate of version one. -/
def isFirstVersion (bs : Bytes) : Bool :=
  match (Der.readAll Der.sequenceTag bs).bind (Der.read Der.sequenceTag) with
  | some (signed, rest) =>
    skip? (Der.integerTag :: List.replicate 5 Der.sequenceTag) signed = some []
      && skip? [Der.sequenceTag, Der.bitsTag] rest = some []
  | none => false

/-- Whether bytes can be trusted as a certificate. -/
def isAnchor (bs : Bytes) : Bool :=
  match read bs with
  | .ok _ => true
  | .error .version => isFirstVersion bs
  | .error _ => false

end Certificate
end Tls
end MailGateway
