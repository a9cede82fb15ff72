import RefLint.Json.Writer
import RefLint.LoadError
import RefLint.Yaml.Datum

/-!
# From YAML data to document values

Keys that are numbers or truth values become strings. A tagged value becomes a
mapping whose only key is the tag. Floats without a JSON form become null.
-/

namespace RefLint.Yaml

set_option autoImplicit false

def Datum.toKey : Datum → Except JsonFault String
  | .scalar (.string text) => .ok text
  | .scalar (.bool value) => .ok (Json.writeBool value)
  | .scalar (.integer value) => .ok (toString value)
  | .scalar (.float value) =>
      if value.isFinite then .ok (Json.writeFloat value) else .error .keyNotFinite
  | _ => .error .keyNotString

def Scalar.toValue : Scalar → Value
  | .null => .null
  | .bool value => .bool value
  | .integer value => .number (.integer value)
  | .float value => if value.isFinite then .number (.float value) else .null
  | .string text => .string text

def Datum.toValue : Datum → Except JsonFault Value
  | .scalar value => .ok value.toValue
  | .sequence items => do
      let items ← ofItems items
      pure (.array items)
  | .mapping pairs => do
      let members ← ofPairs [] pairs
      pure (.object members)
  | .tagged tag content => do
      let value ← content.toValue
      pure (.object [("!" ++ tag, value)])
where
  ofItems : List Datum → Except JsonFault (List Value)
    | [] => .ok []
    | item :: rest => do
        let first ← item.toValue
        let others ← ofItems rest
        pure (first :: others)
  ofPairs (read : Members) : List (Datum × Datum) → Except JsonFault Members
    | [] => .ok read
    | (key, value) :: rest => do
        let key ← key.toKey
        let value ← value.toValue
        ofPairs (Members.insert key value read) rest

end RefLint.Yaml
