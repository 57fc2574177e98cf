/-!
# The vocabulary of SAML 2.0

The names that the standard fixes: the namespaces of its documents, the formats of a NameID and
the class of authentication that a password over a protected transport stands for.

## What is here

* the namespaces `protocolNamespace`, `assertionNamespace`, `metadataNamespace` and
  `signatureNamespace`;
* the NameID formats `nameIdUnspecified` and `nameIdEntity`;
* `passwordProtectedTransport`, the authentication context an issuer states by default.
-/

set_option autoImplicit false
namespace WebSso

/-! ## Namespaces -/

/-- The namespace of requests and responses, written with the qualifier `samlp`. -/
def protocolNamespace : String := "urn:oasis:names:tc:SAML:2.0:protocol"

/-- The namespace of assertions, written with the qualifier `saml`. -/
def assertionNamespace : String := "urn:oasis:names:tc:SAML:2.0:assertion"

/-- The namespace of metadata documents, written with the qualifier `md`. -/
def metadataNamespace : String := "urn:oasis:names:tc:SAML:2.0:metadata"

/-- The namespace of XML signatures, written with the qualifier `ds`. -/
def signatureNamespace : String := "http://www.w3.org/2000/09/xmldsig#"

/-! ## NameID formats -/

/-- Nothing is said about the form of the NameID. -/
def nameIdUnspecified : String := "urn:oasis:names:tc:SAML:1.1:nameid-format:unspecified"

/-- The NameID names an entity, such as the service provider that sends a request. -/
def nameIdEntity : String := "urn:oasis:names:tc:SAML:2.0:nameid-format:entity"

/-! ## Authentication contexts -/

/-- The user gave a password over a protected transport. -/
def passwordProtectedTransport : String :=
  "urn:oasis:names:tc:SAML:2.0:ac:classes:PasswordProtectedTransport"

end WebSso
