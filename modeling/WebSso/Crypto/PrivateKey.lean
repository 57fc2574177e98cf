import WebSso.Codec.Pem
import WebSso.Crypto.PublicKey

/-!
# Private keys

A private key is only asked which public key it belongs to.  It comes wrapped with the name of its
algorithm or plain, and its PEM label tells which of the two it may be.

A PEM text is read twice.  The first reading passes over all that is no key; the second takes only
the first section whose label is that of a private key, but accepts keys that the first does not.

## What is here

* `PrivateKey`, as much as is known of a private key, read by `WrappedKey.private?` and
  `PlainFamily.private?`;
* `PrivateKey.publicOfPem?`, the public half of the private key of PEM text.
-/

set_option autoImplicit false
namespace WebSso

open Asn1 (Value AlgorithmName)

/-- A private key, of which only the public half is kept. -/
structure PrivateKey where
  /-- The public half. -/
  publicKey : PublicKey
  /-- Whether it is in the form that its group prescribes. -/
  isRegular : Bool
  /-- Whether it says that its curve is the one meant for algorithms of its own. -/
  isSm2 : Bool

namespace PrivateKey

/-- The private key of a family in which every key is regular. -/
def ofPublic (key : PublicKey) : PrivateKey := ⟨key, true, false⟩

/-- The private key of a factor on a curve. -/
def ofCurve (secret : CurveSecret) : PrivateKey :=
  ⟨.curve secret.key, secret.isRegular, secret.isSm2⟩

end PrivateKey

/-! ## Wrapped keys -/

/-- A private key that is wrapped with the name of its algorithm. -/
structure WrappedKey where
  /-- The name of the algorithm. -/
  algorithm : AlgorithmName
  /-- The key. -/
  secret : Bytes

namespace WrappedKey

/-- Whether a value is an attribute: its name and a set of values. -/
def isAttribute (v : Value) : Bool :=
  match v.items? with
  | some [name, values] =>
    name.isObjectId
      && (values.members? .set).any fun members => members.all fun w => w.rewritten?.isSome
  | _ => false

/-- Whether values are the end of a wrapped key: perhaps attributes. -/
def isEnd : List Value → Bool
  | [] => true
  | [v] => (v.members? (.place 0)).any fun attributes => attributes.all isAttribute
  | _ => false

/-- The key at the front of some bytes: a version, an algorithm and a string of bytes. -/
def ofBytes? (bytes : Bytes) : Option WrappedKey := do
  let (v, _) ← Asn1.next? bytes
  match ← v.items? with
  | version :: algorithm :: wrapped :: rest =>
    if version.isInteger ∧ isEnd rest then
      return ⟨← AlgorithmName.ofValue? algorithm, ← wrapped.octets?⟩
    else none
  | _ => none

/-- A wrapped key, read as one of a family. -/
def private? (family : KeyFamily) (k : WrappedKey) : Option PrivateKey := do
  match family with
  | .rsa => return .ofPublic (.rsa (← RsaKey.ofPrivate? k.secret))
  | .rsaPss =>
    if Padding.isAllowed k.algorithm then
      return .ofPublic (.rsaPss (← RsaKey.ofPrivate? k.secret))
    else none
  | .dsa =>
    let group ← PowerGroup.ofSignature? (← k.algorithm.parameter)
    return .ofPublic (.dsa (← PowerKey.ofSigning? group k.secret))
  | .dh =>
    let group ← PowerGroup.ofAgreement? (← k.algorithm.parameter)
    if group.isUsable then return .ofPublic (.dh (← PowerKey.ofPrivate? group k.secret)) else none
  | .dhExtended =>
    let group ← PowerGroup.ofExtended? (← k.algorithm.parameter)
    if group.isUsable then return .ofPublic (.dhExtended (← PowerKey.ofPrivate? group k.secret))
    else none
  | .curve | .sm2 =>
    let parameters ← CurveParameters.ofValue? (← k.algorithm.parameter)
    return .ofCurve (← CurveSecret.ofBytes? parameters k.secret)
  | .octets kind =>
    let (v, _) ← Asn1.next? k.secret
    let bytes ← v.octets?
    if k.algorithm.parameter.isNone ∧ bytes.length = kind.size then
      return .ofPublic (.octets kind (kind.publicOf bytes))
    else none

end WrappedKey

/-! ## Plain keys -/

/-- The families whose plain keys can be read. -/
inductive PlainFamily where
  | rsa
  | dsa
  | curve
  deriving DecidableEq

namespace PlainFamily

/-- The family of a plain key. -/
def family : PlainFamily → KeyFamily
  | rsa => .rsa
  | dsa => .dsa
  | curve => .curve

/-- The plain key at the front of some bytes. -/
def private? (family : PlainFamily) (bytes : Bytes) : Option PrivateKey :=
  match family with
  | rsa => (RsaKey.ofPrivate? bytes).map fun key => .ofPublic (.rsa key)
  | dsa => (PowerKey.ofPlainPrivate? bytes).map fun key => .ofPublic (.dsa key)
  | curve => (CurveSecret.ofBytes? none bytes).map .ofCurve

end PlainFamily

namespace PrivateKey

/-! ## The first reading -/

/-- Whether a family is the one under whose name a key is given: keys on the curve that is meant for
algorithms of its own have a family of their own. -/
def fits (family : KeyFamily) (key : PrivateKey) : Bool :=
  match family with
  | .curve => !key.isSm2
  | .sm2 => key.isSm2
  | _ => true

/-- The wrapped key of one of some families at the front of some bytes. -/
def wrapped? (families : List KeyFamily) (bytes : Bytes) : Option PrivateKey := do
  let k ← WrappedKey.ofBytes? bytes
  let family ← KeyFamily.ofMainPath? k.algorithm.path
  let key ← k.private? family
  if families.contains family ∧ key.fits family then return key else none

/-- What the label of a section tells about the key in it. -/
inductive Content where
  /-- A wrapped key of any family. -/
  | wrapped
  /-- A wrapped key of any family, or one that is encrypted. -/
  | encrypted
  /-- A key of one family, wrapped or plain. -/
  | plain (family : PlainFamily)
  /-- A wrapped key of one family. -/
  | only (family : KeyFamily)
  deriving DecidableEq

/-- The labels of the sections that may hold a private key. -/
def contents : List (String × Content) :=
  [("PRIVATE KEY", .wrapped), ("ENCRYPTED PRIVATE KEY", .encrypted),
    ("RSA PRIVATE KEY", .plain .rsa), ("RSA PUBLIC KEY", .plain .rsa),
    ("DSA PRIVATE KEY", .plain .dsa), ("DSA PUBLIC KEY", .plain .dsa),
    ("DSA PARAMETERS", .plain .dsa),
    ("EC PRIVATE KEY", .plain .curve), ("EC PARAMETERS", .plain .curve),
    ("DH PARAMETERS", .only .dh), ("X9.42 DH PARAMETERS", .only .dhExtended)]

/-- What the label of a section tells. -/
def contentOf? (s : Pem.Section) : Option Content := contents.lookup (String.ofList s.label)

/-- Whether bytes are an encrypted key: an algorithm and a string of bytes. -/
def isEncrypted (bytes : Bytes) : Bool :=
  match (Asn1.next? bytes).bind fun (v, _) => v.items? with
  | some [algorithm, secret] =>
    (AlgorithmName.ofValue? algorithm).isSome && secret.octets?.isSome
  | _ => false

/-- The key that a section holds, which is read as a stream. -/
def ofContent? (content : Content) (bytes : Bytes) : Option PrivateKey :=
  if !Asn1.isStreamed bytes then none
  else
    match content with
    | .wrapped | .encrypted => wrapped? KeyFamily.all bytes
    | .plain plain =>
      wrapped? [plain.family] bytes <|> (plain.private? bytes).filter (fits plain.family)
    | .only family => wrapped? [family] bytes

/-- How many characters of a header above a key are overlooked; a longer one would say how the key
is encrypted. -/
def overlooked : Nat := 10

/-- The first key among some sections.  What is no key is passed over, but a section below a header
and an encrypted key end the reading. -/
def first? : List (Option Pem.Section) → Option PrivateKey
  | [] => none
  | none :: rest => first? rest
  | some s :: rest =>
    if overlooked < s.headerLength then none
    else
      match contentOf? s with
      | none => first? rest
      | some content =>
        if content = .encrypted ∧ isEncrypted s.bytes then none
        else ofContent? content s.bytes <|> first? rest

/-! ## The second reading -/

/-- What labels of private keys end with. -/
def labelEnd : List Char := " PRIVATE KEY".toList

/-- The family whose plain keys a label names, in letters of any case. -/
def plainFamily? (label : List Char) : Option PlainFamily :=
  if labelEnd.isSuffixOf label then
    let name := (label.take (label.length - labelEnd.length)).map Char.toUpper
    [("RSA", PlainFamily.rsa), ("DSA", .dsa), ("EC", .curve)].lookup (String.ofList name)
  else none

/-- The labels that name a private key of any family.  Only what has the first can be read. -/
def anyLabels : List String := ["PRIVATE KEY", "ENCRYPTED PRIVATE KEY", "ANY PRIVATE KEY"]

/-- The wrapped key at the front of some bytes, whichever name its family has.  If it is given as a
key of one family, it has to belong to that. -/
def looseWrapped? (given : Option PlainFamily) (bytes : Bytes) : Option PrivateKey := do
  let k ← WrappedKey.ofBytes? bytes
  let family ← KeyFamily.ofPath? k.algorithm.path
  let isGiven (plain : PlainFamily) : Bool :=
    plain.family = family || (plain = .curve && family = .sm2)
  if given.all isGiven then k.private? family else none

/-- The key in the first section with the label of a private key, which has no header. -/
def labelled? (sections : List Pem.Section) : Option PrivateKey := do
  let s ← sections.find? fun s => s.isLabelled anyLabels || (plainFamily? s.label).isSome
  if s.headerLength ≠ 0 then none
  match plainFamily? s.label with
  | some plain => plain.private? s.bytes <|> looseWrapped? (some plain) s.bytes
  | none => if s.isLabelled (anyLabels.take 1) then looseWrapped? none s.bytes else none

/-! ## Both readings -/

/-- The public half of a key from the second reading, which brings a key into the form that its
group prescribes before it is compared. -/
def comparable (k : PrivateKey) : PublicKey := if k.isRegular then k.publicKey else .irregular

/-- The public half of the private key of PEM text. -/
def publicOfPem? (text : Bytes) : Option PublicKey :=
  (first? (Pem.items text)).map PrivateKey.publicKey
    <|> (labelled? (Pem.sections text)).map comparable

end PrivateKey
end WebSso
