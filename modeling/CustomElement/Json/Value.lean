-- SUMMARY: JSON values; numbers with a fraction or an exponent are kept as decimals.

/-! ## JSON values

Whole numbers may have any size. The fields of an object are kept in order, and where a name occurs
more than once the last field counts. -/

namespace CustomElement.Json

/-- A number that is written with a fraction or an exponent, or that is no finite number. -/
inductive Real where
  /-- A number times a power of ten. -/
  | finite (mantissa exponent : Int)
  | infinite (negative : Bool)
  | notANumber
  deriving DecidableEq, Repr, Inhabited

/-- A JSON value. -/
inductive Value where
  | null
  | bool (b : Bool)
  | int (n : Int)
  | real (x : Real)
  | string (s : String)
  | array (items : List Value)
  | object (fields : List (String × Value))
  deriving Inhabited

/-- The field of a name: the last one. -/
def find? {α : Type} (fields : List (String × α)) (name : String) : Option α :=
  (fields.reverse.find? fun f => f.1 == name).map Prod.snd

/-- The field of a name in an object. -/
def Value.field? (v : Value) (name : String) : Option Value :=
  match v with
  | object fields => find? fields name
  | _ => none

theorem find?_append {α : Type} (a b : List (String × α)) (name : String) :
    find? (a ++ b) name = (find? b name).or (find? a name) := by
  simp only [find?, List.reverse_append, List.find?_append]
  cases List.find? (fun f => f.1 == name) b.reverse <;> rfl

end CustomElement.Json
