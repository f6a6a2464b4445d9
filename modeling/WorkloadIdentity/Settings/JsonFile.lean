import WorkloadIdentity.Json.Document
import WorkloadIdentity.Json.Limits
import WorkloadIdentity.Settings.Table

/-!
# Settings in JSON

The settings of a JSON document, whose outermost value is an object.
-/

namespace WorkloadIdentity
namespace Json

/-- The text of a number.  Whole numbers of 64 bits keep their digits; others are rounded. -/
def numberText (numeral : Numeral) : Option String :=
  let whole := Decimal.spelled numeral.whole
  let isPlain := numeral.fraction = [] ∧ numeral.exponent = none
  let isNegativeZero := numeral.negative ∧ whole = 0
  let digits := if isPlain ∧ ¬isNegativeZero then Decimal.text64? numeral.negative whole else none
  digits.or (numeral.value?.map fun value => (Real.finite numeral.negative value).text)

def setting? : Json → Option Setting
  | null => some .null
  | bool value => some (.text (if value then "true" else "false"))
  | number numeral => (numberText numeral).map .text
  | text literal => literal.map .text
  | array _ => some .array
  | object members => some (.table members.isEmpty)

def settings? (document : String) : Option (List (String × Setting)) := do
  match (← parse? document).kept? 0 with
  | some (object members) =>
      members.mapM fun (key, value) => do return (← key, ← value.setting?)
  | _ => none

end Json
end WorkloadIdentity
