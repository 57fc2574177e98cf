/-!
# Friendly names

The attributes that campus directories commonly release are named by object identifiers.  This is
the table of the names by which people know them.

## What is here

* `friendlyName?`, the name of an attribute in the eduPerson or inetOrgPerson schema.
-/

set_option autoImplicit false
namespace WebSso

/-- The table, by object identifier. -/
def friendlyNames : List (String × String) :=
  [("urn:oid:2.16.840.1.113730.3.1.241", "displayName"),
    ("urn:oid:1.3.6.1.4.1.5923.1.1.1.9", "eduPersonScopedAffiliation"),
    ("urn:oid:1.3.6.1.4.1.5923.1.1.1.1", "eduPersonAffiliation"),
    ("urn:oid:0.9.2342.19200300.100.1.3", "mail"),
    ("urn:oid:0.9.2342.19200300.100.1.1", "uid"),
    ("urn:oid:1.3.6.1.4.1.5923.1.1.1.6", "eduPersonPrincipalName"),
    ("urn:oid:1.3.6.1.4.1.5923.1.1.1.10", "eduPersonTargetedID"),
    ("urn:oid:1.3.6.1.4.1.5923.1.1.1.13", "eduPersonUniqueId"),
    ("urn:oid:2.5.4.42", "givenName"),
    ("urn:oid:2.5.4.4", "sn"),
    ("urn:oid:2.5.4.3", "cn"),
    ("urn:oid:2.16.840.1.113730.3.1.3", "employeeNumber")]

/-- The name people know an attribute by. -/
def friendlyName? (name : String) : Option String := friendlyNames.lookup name

end WebSso
