import RefLint.Schema.Conformance
import RefLint.Schema.Reader

/-!
# Validating documents against schemas that are documents

A schema must satisfy the schema that describes its generation. A document that is no schema is
reported with a single finding. Where it breaks a condition of that schema, the path is the
place of the condition.
-/

namespace RefLint

set_option autoImplicit false

namespace Dialect

def readSchema (dialect : Dialect) : SchemaDocument :=
  let description := (Registry.standardDocuments dialect).headD (.bool true)
  let document := (Registry.resolve Registry.rootAddress dialect.address).bind fun address =>
    SchemaDocument.ofRegistry Registry.standard address ⟨description, dialect⟩
  document.toOption.getD ⟨.anything, [], 0⟩

def schema4 : SchemaDocument := readSchema draft4
def schema6 : SchemaDocument := readSchema draft6
def schema7 : SchemaDocument := readSchema draft7
def schema2019 : SchemaDocument := readSchema draft2019
def schema2020 : SchemaDocument := readSchema draft2020

def schema : Dialect → SchemaDocument
  | draft4 => schema4
  | draft6 => schema6
  | draft7 => schema7
  | draft2019 => schema2019
  | draft2020 => schema2020

/-- The generation that a document declares; without a declaration it is the latest one. -/
def ofDocument (document : Value) : Except SchemaFault Dialect :=
  match declared? document with
  | some address =>
      match ofAddress? address with
      | some dialect => .ok dialect
      | none => .error (.unknownDialect (trimAddress address))
  | none => .ok draft2020

end Dialect

def invalidSchema (path message : String) : Finding := ⟨path, "invalid schema: " ++ message⟩

namespace SchemaDocument

def register (document : Resource) : Except SchemaFault (Registry × Uri) := do
  let address ← Registry.resolve Registry.rootAddress (document.id?.getD "")
  let registry ← Registry.standard.add address document
  registry.demandComplete
  pure (registry, address)

/-- Read a schema, which must satisfy the schema of its generation. -/
def read (schema : Value) : Except Finding SchemaDocument := do
  let refuse (fault : SchemaFault) : Finding := invalidSchema "" fault.message
  let dialect ← (Dialect.ofDocument schema).mapError refuse
  let (registry, address) ← (register ⟨schema, dialect⟩).mapError refuse
  match dialect.schema.violations schema with
  | first :: _ => .error (invalidSchema (pathText first.condition) first.message)
  | [] => (ofRegistry registry address ⟨schema, dialect⟩).mapError refuse

def findings (document : SchemaDocument) (value : Value) : List Finding :=
  (document.violations value).map Finding.ofViolation

end SchemaDocument

/-- Check a value against a schema; no findings means that it is valid. -/
def validate (schema value : Value) : List Finding :=
  match SchemaDocument.read schema with
  | .ok document => document.findings value
  | .error finding => [finding]

end RefLint
