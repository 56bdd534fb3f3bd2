/-
# Loading a key pair

A server proves who it is with certificates and the private key that belongs to the
first of them.  Both files are read before either is looked into.  The key's file must
hold one key, whatever else it holds.
-/

import MailGateway.Files.Tree
import MailGateway.Tls.Certificate
import MailGateway.Tls.Key
import MailGateway.Tls.Pem

namespace MailGateway
namespace Tls

/-- Certificates and the key of the first. -/
structure KeyPair where
  certificates : List Bytes
  key : Key
  deriving DecidableEq, Repr, Inhabited

/-- Why there is no key pair. -/
inductive PairFault where
  | unreadable (path : String) (failure : Files.Failure)
  | badCertificateFile
  | badKeyFile
  | noKey
  | manyKeys
  | unknownKeyForm
  | badKey
  | noCertificate
  | badCertificate (fault : CertificateFault)
  | mismatch
  deriving DecidableEq, Repr, Inhabited

/-- The text of a fault. -/
def PairFault.message : PairFault → String
  | .unreadable path failure => s!"failed to read from file `{path}`: {failure.message}"
  | .badCertificateFile => "failed to parse certificate"
  | .badKeyFile => "failed to parse PEM"
  | .noKey => "The private key file contained no keys"
  | .manyKeys => "The private key file containsed multiple keys (it must only contain one)"
  | .unknownKeyForm => "unknown or invalid key format"
  | .badKey => "unexpected error: failed to parse private key as RSA, ECDSA, or EdDSA"
  | .noCertificate => "peer sent no certificates"
  | .badCertificate fault => s!"invalid peer certificate: {fault.message}"
  | .mismatch => "keys may not be consistent: KeyMismatch"

namespace KeyPair

/-- The only key of a file.  Faults in it matter only if there is no key. -/
def onlyKey (text : String) : Except PairFault Bytes :=
  let entries := Pem.entries text
  match (entries.filterMap id).filter (·.kind.isKey) with
  | [] => if entries.any (·.isNone) then .error .badKeyFile else .error .noKey
  | [s] => .ok s.content
  | _ => .error .manyKeys

/-- The key pair of certificates and a key in binary form. -/
def ofBytes (certificates : List Bytes) (key : Bytes) : Except PairFault KeyPair :=
  match KeyForm.of? key with
  | none => .error .unknownKeyForm
  | some form =>
    match Key.read form key, certificates with
    | none, _ => .error .badKey
    | some _, [] => .error .noCertificate
    | some key, certificate :: _ =>
      match Certificate.read certificate with
      | .error fault => .error (.badCertificate fault)
      | .ok c =>
        if c.publicInfo = key.publicInfo then .ok ⟨certificates, key⟩ else .error .mismatch

/-- The key pair of the texts of its files. -/
def ofTexts (certificates key : String) : Except PairFault KeyPair :=
  match Pem.sections? certificates with
  | none => .error .badCertificateFile
  | some sections => do
    let key ← onlyKey key
    ofBytes ((sections.filter (·.kind = .certificate)).map (·.content)) key

/-- Reads a file of a key pair. -/
def readFile (files : Files.Tree) (path : String) : Except PairFault String :=
  (files.read path).mapError (.unreadable path)

/-- Loads a key pair from its files. -/
def load (files : Files.Tree) (certFile keyFile : String) : Except PairFault KeyPair := do
  let certificates ← readFile files certFile
  let key ← readFile files keyFile
  ofTexts certificates key

end KeyPair
end Tls
end MailGateway
