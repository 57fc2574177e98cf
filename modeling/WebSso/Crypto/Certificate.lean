import WebSso.Asn1.Time
import WebSso.Codec.Pem
import WebSso.Crypto.PublicKey
import WebSso.Fault

/-!
# Certificates

A certificate is a list of what is signed, the name of the algorithm and the signature.  It may be
written in several ways.  What is signed keeps the bytes it was read from, which the signature
vouches for; all around it is brought into the one written form.

## What is here

* `Certificate`, the parts of an X.509 certificate that the library acts on, read by
  `Certificate.ofDer?` and `Certificate.ofPem?`;
* `Certificate.checkValidity`, whether it may be used at some instant.
-/

set_option autoImplicit false
namespace WebSso

/-- A certificate. -/
structure Certificate where
  /-- Its bytes in their one written form. -/
  der : Bytes
  /-- The second from which on it is valid, if it can be read. -/
  notBefore : Option Int
  /-- The second at which it ends to be valid, if it can be read. -/
  notAfter : Option Int
  /-- The key it vouches for, if it can be read. -/
  publicKey : Option PublicKey
  deriving DecidableEq

namespace Certificate

open Asn1 (Value AlgorithmName)

/-! ## Parts -/

/-- Whether a value is a field of a name and the text in it. -/
def isNameField (v : Value) : Bool :=
  match v.items? with
  | some [field, text] => field.isObjectId && text.isNameText
  | _ => false

/-- Whether a value is a name, a list of sets of fields. -/
def isName (v : Value) : Bool :=
  match v.members? .sequence with
  | some sets => sets.all fun set =>
    match set.members? .set with
    | some fields => fields.all isNameField
    | none => false
  | none => false

/-- Whether a value is a key, readable or not, and the name of its algorithm. -/
def isKey (v : Value) : Bool :=
  match v.items? with
  | some [algorithm, bits] => (AlgorithmName.ofValue? algorithm).isSome && bits.bits?.isSome
  | _ => false

/-- Whether a value is an extension: its name, perhaps whether it is critical, and its content. -/
def isExtension (v : Value) : Bool :=
  match v.items? with
  | some [name, content] => name.isObjectId && content.octets?.isSome
  | some [name, critical, content] =>
    name.isObjectId && critical.isBoolean && content.octets?.isSome
  | _ => false

/-- Whether a value is a list of extensions. -/
def isExtensions (v : Value) : Bool :=
  match v.members? .sequence with
  | some extensions => extensions.all isExtension
  | none => false

/-- Whether values are the optional end of what is signed: a number for the issuer, one for the
subject, and a list of extensions, in this order. -/
def isEnd (values : List Value) : Bool :=
  let isNumber (v : Value) : Bool := v.anyBits?.isSome
  let rest := Asn1.skip? 1 isNumber values
    >>= Asn1.skip? 2 isNumber
    >>= Asn1.skip? 3 (Value.wraps isExtensions)
  rest.any List.isEmpty

/-! ## Reading -/

/-- The certificate of its bytes and of the list of what is signed in it.  A version may stand at
the front of the list. -/
def ofSigned? (der : Bytes) (signed : Value) : Option Certificate := do
  match ← Asn1.skip? 0 (Value.wraps Value.isInteger) (← signed.items?) with
  | serial :: algorithm :: issuer :: validity :: subject :: key :: rest =>
    if !(serial.isInteger && (AlgorithmName.ofValue? algorithm).isSome && isName issuer
        && isName subject && isKey key && isEnd rest) then none
    match ← validity.items? with
    | [start, stop] =>
      if start.isTime ∧ stop.isTime then
        return ⟨der, start.second?, stop.second?, PublicKey.ofValue? key⟩
      else none
    | _ => none
  | _ => none

/-- The certificate at the front of some bytes; what follows it is not looked at. -/
def ofDer? (bytes : Bytes) : Option Certificate := do
  let (outer, _) ← Asn1.next? bytes
  match ← outer.items? with
  | [signed, algorithm, signature] =>
    let algorithm ← AlgorithmName.ofValue? algorithm
    let signature ← signature.bits?
    ofSigned?
      (Asn1.writeItems [signed.encoded, algorithm.write, Asn1.writeBits signature]) signed
  | _ => none

/-- The labels under which a certificate is found in PEM text. -/
def pemLabels : List String := ["CERTIFICATE", "X509 CERTIFICATE"]

/-- The certificate of PEM text: what its first section with one of the labels holds, which has no
header. -/
def ofPem? (text : Bytes) : Option Certificate := do
  let s ← (Pem.sections text).find? fun s => s.isLabelled pemLabels
  if s.headerLength = 0 then ofDer? s.bytes else none

/-- The fault of bytes that are no certificate. -/
def invalid : Fault := .key "invalid certificate:"

/-! ## Validity -/

/-- The first second of the year 0. -/
def firstComparable : Int := -62167219200

/-- Whether a certificate may be used at an instant: from its first second on, and before its last.
Only the years 0 to 9999 can be compared with it, and only if both seconds can be read. -/
def checkValidity (c : Certificate) (now : Instant) : Except Fault Unit :=
  let second := now.unixSeconds
  if second < firstComparable ∨ endShown ≤ second then .error .crypto
  else
    match c.notBefore, c.notAfter with
    | some start, some stop =>
      if start ≤ second ∧ second < stop then .ok () else .error .expiredCertificate
    | _, _ => .error .crypto

end Certificate
end WebSso
