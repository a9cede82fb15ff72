import RefLint.Schema.Violation

/-!
# Documents that are no schemas
-/

namespace RefLint

set_option autoImplicit false

inductive SchemaFault where
  /-- A part that does not fit its keyword. -/
  | unfit (part : Value) (fault : Fault)
  | unknownType
  | unknownDialect (address : String)
  | badReference (reference : String) (fault : UriFault)
  /-- A relative path at an address that has no place for it. -/
  | opaqueBase (reference base : String)
  | noPointer (pointer : String)
  | badIndex (pointer segment : String)
  | badOctets (pointer : String)
  | noAnchor (name : String)
  | badAnchor (name : String)
  | noResource (address reason : String)

namespace SchemaFault

def message : SchemaFault → String
  | unfit part fault => fault.message part
  | unknownType => "Unexpected type"
  | unknownDialect address => "Unknown specification: " ++ address
  | badReference reference fault => "Invalid URI reference '" ++ reference ++ "': " ++ fault.message
  | opaqueBase reference base =>
      "Failed to resolve '" ++ reference ++ "' against '" ++ base
        ++ "': relative reference must be empty or start with '#' when resolved against "
        ++ "authority-less base with rootless path"
  | noPointer pointer => "Pointer '" ++ pointer ++ "' does not exist"
  | badIndex pointer segment =>
      "Failed to parse array index '" ++ segment ++ "' in pointer '" ++ pointer ++ "'"
  | badOctets pointer =>
      "Invalid percent encoding in pointer '" ++ pointer
        ++ "': the decoded bytes do not represent valid UTF-8"
  | noAnchor name => "Anchor '" ++ name ++ "' does not exist"
  | badAnchor name => "Anchor '" ++ name ++ "' is invalid"
  | noResource address reason =>
      "Resource '" ++ address ++ "' is not present in a registry and retrieving it failed: "
        ++ reason

def wrongType (part : Value) (types : List TypeName) : SchemaFault :=
  unfit part (.wrongType types)

end SchemaFault

end RefLint
