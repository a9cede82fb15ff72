import RefLint.Json.Reader
import RefLint.Yaml.Conversion

/-!
# Documents as texts

A document is written in JSON or in YAML; the ending of its name tells which.
-/

namespace RefLint

set_option autoImplicit false

inductive Format where
  | json | yaml
  deriving DecidableEq

def lowerAscii (text : String) : List Char := text.toList.map Char.toLower

/-- YAML for names that end in `.yaml` or `.yml` in any letter case, else JSON. -/
def Format.ofName (name : String) : Format :=
  let ending := lowerAscii name
  if ".yaml".toList.isSuffixOf ending || ".yml".toList.isSuffixOf ending then .yaml else .json

def isUrl (source : String) : Bool :=
  "http://".toList.isPrefixOf source.toList || "https://".toList.isPrefixOf source.toList

def readDocument (text : String) (format : Format) : Except LoadError Value :=
  match format with
  | .json =>
      match Json.read text with
      | .ok value => .ok value
      | .error error => .error (.invalidJson (.malformed error))
  | .yaml =>
      match Yaml.Datum.ofText? text with
      | none => .error .invalidYaml
      | some datum =>
          match datum.toValue with
          | .ok value => .ok value
          | .error fault => .error (.invalidJson fault)

end RefLint
