import HiveTable.Value

/-! What reads the documents of configurations: any function from texts to values. -/
namespace HiveTable.Yaml

/-- Why a text yields no value. -/
inductive Fault
  /-- The text is not well formed. -/
  | malformed
  /-- A number, a date or a code has the form of one but no value. -/
  | unusable
  /-- A number is larger than any that can be computed with. -/
  | tooLarge
  /-- Collections are nested too deeply. -/
  | tooDeep
  deriving DecidableEq

/-- Reads the document in a text. -/
abbrev Loader := String → Except Fault Value

end HiveTable.Yaml
