/-
# Private keys

A private key comes in three forms, told apart by the first bytes inside it: one that is
wrapped together with the name of its algorithm, an RSA key, and a key of an elliptic
curve.  Its public half (`Key.publicInfo`) is compared with that of the certificate.

The numbers of an RSA key must belong together.  The public half of the other keys is
computed from the secret; what a key says of it must be true.
-/

import MailGateway.Curve.Edwards
import MailGateway.Curve.Weierstrass
import MailGateway.Lattice.Signing
import MailGateway.Tls.Der

namespace MailGateway
namespace Tls

open Curve (Weierstrass)

/-- The form of a private key. -/
inductive KeyForm where
  | wrapped
  | rsa
  | ec
  deriving DecidableEq, Repr, Inhabited

/-- The form that the first bytes of a private key show. -/
def KeyForm.of? (bs : Bytes) : Option KeyForm :=
  match bs with
  | 0x30 :: length :: _ =>
    let skipped := if length < 0x80 then 2 else 2 + (length.toNat - 0x80)
    if bs.length < skipped then none
    else
      match bs.drop skipped with
      | 0x02 :: 0x01 :: _ :: 0x30 :: _ => some .wrapped
      | 0x02 :: 0x01 :: 0x00 :: _ => some .rsa
      | 0x02 :: 0x01 :: 0x01 :: _ => some .ec
      | _ => none
  | _ => none

/-- The name of RSA. -/
def rsaName : Bytes := [0x2A, 0x86, 0x48, 0x86, 0xF7, 0x0D, 0x01, 0x01, 0x01]

/-- The name of elliptic curves. -/
def ecName : Bytes := [0x2A, 0x86, 0x48, 0xCE, 0x3D, 0x02, 0x01]

/-- The name of fields of prime size. -/
def primeFieldName : Bytes := [0x2A, 0x86, 0x48, 0xCE, 0x3D, 0x01, 0x01]

/-- The name of the curve of signing keys. -/
def edwardsName : Bytes := [0x2B, 0x65, 0x70]

/-- A private key, as far as its public half goes. -/
inductive Key where
  | rsa (modulus exponent : Nat)
  | ec (curve : Weierstrass) (point : Nat × Nat)
  | edwards (point : Bytes)
  | lattice (size : Lattice.Size) (content : Bytes)
  deriving DecidableEq, Repr, Inhabited

namespace Key

/-- Whether the public numbers of an RSA key are of use. -/
def allowed (n e : Nat) : Bool :=
  2048 ≤ n.log2 + 1 && n.log2 + 1 ≤ 8192 && n % 2 = 1 && 3 ≤ e && e < 2 ^ 33 && e % 2 = 1

/-- Whether the numbers of an RSA key belong together. -/
def fits (n e d p q dp dq qi : Nat) : Bool :=
  n = p * q && 1 < p && 1 < q && d < n
    && d * e % (p - 1) = 1 && d * e % (q - 1) = 1
    && d % (p - 1) = dp && d % (q - 1) = dq && q * qi % p = 1 && qi < p

/-- Reads the content of an RSA key. -/
def readRsa (content : Bytes) : Option Key := do
  match ← Der.readNaturals 9 content with
  | ([0, n, e, d, p, q, dp, dq, qi], []) =>
    if allowed n e && fits n e d p q dp dq qi then some (.rsa n e) else none
  | _ => none

/-- The public point of a secret. -/
def point? (curve : Weierstrass) (secret : Nat) : Option (Nat × Nat) :=
  if 0 < secret && secret < curve.order then curve.multiple secret else none

/-- Whether a key that carries a point in bytes carries this one. -/
def carries (curve : Weierstrass) (point : Nat × Nat) (carried : Option Bytes) : Bool :=
  match carried with
  | none => true
  | some value =>
    match Der.readAll Der.bitsTag value with
    | some (0 :: bs) =>
      bs = curve.encode point || bs = curve.encodeShort point || bs = curve.encodeLong point
    | _ => false

/-- The curve that bytes spell out. -/
def spelledCurve? (bs : Bytes) : Option Weierstrass := do
  let content ← Der.readAll Der.sequenceTag bs
  let (version, rest) ← Der.readNatural content
  let (field, rest) ← Der.read Der.sequenceTag rest
  let (name, field) ← Der.read Der.nameTag field
  let (prime, field) ← Der.readNatural field
  let (coefficients, rest) ← Der.read Der.sequenceTag rest
  let (a, coefficients) ← Der.read Der.octetsTag coefficients
  let (b, coefficients) ← Der.read Der.octetsTag coefficients
  let (_, coefficients) ← Der.readOptional Der.bitsTag coefficients
  let (base, rest) ← Der.read Der.octetsTag rest
  let (order, rest) ← Der.readNatural rest
  let (cofactor, rest) ← Der.readOptional Der.integerTag rest
  let half := base.length / 2
  if version = 1 && name = primeFieldName && cofactor.all (· = [1]) && base.head? = some 4
      && base.length % 2 = 1 && field.isEmpty && coefficients.isEmpty && rest.isEmpty then
    Weierstrass.ofParameters? prime (numberOf a) (numberOf b)
      (numberOf ((base.drop 1).take half), numberOf (base.drop (1 + half))) order
  else none

/-- The curve that bytes name or spell out. -/
def curve? (bs : Bytes) : Option Weierstrass :=
  match Der.readAll Der.nameTag bs with
  | some name => Weierstrass.ofIdentifier? name
  | none => spelledCurve? bs

/-- Reads the content of a key of a curve; what it says of the curve must be true. -/
def readEc (curve : Weierstrass) (content : Bytes) : Option Key := do
  let (version, rest) ← Der.readNatural content
  let (secret, rest) ← Der.read Der.octetsTag rest
  let (parameters, rest) ← Der.readOptional 0xA0 rest
  let (carried, rest) ← Der.readOptional 0xA1 rest
  if version = 1 && rest.isEmpty && parameters.all (fun ps => curve? ps = some curve) then
    let point ← point? curve (numberOf secret)
    if carries curve point carried then some (.ec curve point) else none
  else none

/-- A secret with the name of its algorithm and the parameters; it may come with the public
half. -/
structure Wrapping where
  name : Bytes
  parameters : Bytes
  secret : Bytes
  half : Option Bytes
  deriving DecidableEq, Repr, Inhabited

/-- Reads a wrapping.  Only the second version, numbered one, has a public half. -/
def Wrapping.read (content : Bytes) : Option Wrapping := do
  let (version, rest) ← Der.readNatural content
  let (algorithm, rest) ← Der.read Der.sequenceTag rest
  let (name, parameters) ← Der.read Der.nameTag algorithm
  let (secret, rest) ← Der.read Der.octetsTag rest
  let (_, rest) ← Der.readOptional 0xA0 rest
  match version, rest with
  | 0, [] => some ⟨name, parameters, secret, none⟩
  | 1, [] => some ⟨name, parameters, secret, none⟩
  | 1, _ =>
    match ← Der.readAll 0x81 rest with
    | 0 :: half => some ⟨name, parameters, secret, some half⟩
    | _ => none
  | _, _ => none

/-- Reads a signing key of a curve. -/
def readEdwards (w : Wrapping) : Option Key := do
  let seed ← Der.readAll Der.octetsTag w.secret
  let point := Curve.Edwards.publicKey seed
  if w.parameters.isEmpty && seed.length = 32 && w.half.all (· = point) then
    some (.edwards point)
  else none

/-- Reads a signing key over a lattice: its seed, all of it, or both, which must agree. -/
def readSigning (size : Lattice.Size) (content : Bytes) : Option Lattice.SigningKey := do
  let ofSeed? (seed : Bytes) : Option Lattice.SigningKey :=
    if seed.length = 32 then some (.ofSeed size seed) else none
  if content.head? = some 0x80 then
    let (seed, _) ← Der.read 0x80 content
    ofSeed? seed
  else if content.head? = some Der.octetsTag then
    let (expanded, _) ← Der.read Der.octetsTag content
    Lattice.SigningKey.ofExpanded? size expanded
  else
    let (both, _) ← Der.read Der.sequenceTag content
    let (seed, rest) ← Der.read Der.octetsTag both
    let (expanded, _) ← Der.read Der.octetsTag rest
    let key ← ofSeed? seed
    if key.expanded size = expanded then some key else none

/-- Reads a signing key over a lattice. -/
def readLattice (size : Lattice.Size) (w : Wrapping) : Option Key := do
  if w.parameters.isEmpty then
    some (.lattice size (← readSigning size w.secret).publicKey)
  else none

/-- Reads the key in a wrapping. -/
def readWrapping (w : Wrapping) : Option Key := do
  if w.name = rsaName then
    if w.parameters = Der.write Der.nullTag [] && w.half.isNone then
      readRsa (← Der.readAll Der.sequenceTag w.secret)
    else none
  else if w.name = ecName then
    if w.half.isNone then
      readEc (← curve? w.parameters) (← Der.readAll Der.sequenceTag w.secret)
    else none
  else if w.name = edwardsName then readEdwards w
  else readLattice (← Lattice.Size.ofIdentifier? w.name) w

/-- Reads a key; what follows it does not matter.  A key of a curve that does not name the
curve belongs to the first curve that it fits. -/
def read (form : KeyForm) (bs : Bytes) : Option Key := do
  let (content, _) ← Der.read Der.sequenceTag bs
  match form with
  | .wrapped => readWrapping (← Wrapping.read content)
  | .rsa => readRsa content
  | .ec => [Weierstrass.p256, .p384, .p521].findSome? fun curve => readEc curve content

/-- The public half, as certificates hold it. -/
def publicInfo (k : Key) : Bytes :=
  let (algorithm, key) :=
    match k with
    | .rsa n e =>
      (Der.write Der.nameTag rsaName ++ Der.write Der.nullTag [],
        Der.write Der.sequenceTag (Der.writeNatural n ++ Der.writeNatural e))
    | .ec curve point =>
      (Der.write Der.nameTag ecName ++ Der.write Der.nameTag curve.identifier,
        curve.encode point)
    | .edwards point => (Der.write Der.nameTag edwardsName, point)
    | .lattice size content => (Der.write Der.nameTag size.identifier, content)
  Der.write Der.sequenceTag
    (Der.write Der.sequenceTag algorithm ++ Der.write Der.bitsTag (0 :: key))

end Key
end Tls
end MailGateway
