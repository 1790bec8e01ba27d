/-! # Untyped data

Data as it arrives from outside, before any reading gives it a type.
-/
namespace Patchwork

inductive Datum
  | null
  | flag (value : Bool)
  | integer (value : Int)
  /-- The number `mantissa / 10 ^ places`, written with a point. -/
  | decimal (mantissa : Int) (places : Nat)
  | text (value : String)
  | list (items : List Datum)
  | record (fields : List (String × Datum))
deriving Inhabited

def Datum.integer? : Datum → Option Int
  | integer value => some value
  | decimal mantissa places =>
    let scale : Int := Int.ofNat (Nat.pow 10 places)
    if mantissa % scale = 0 then some (mantissa / scale) else none
  | _ => none

/-- The value of a field; a later field of the same name hides an earlier one. -/
def Datum.field? (fields : List (String × Datum)) (name : String) : Option Datum :=
  (fields.reverse.find? fun field => field.1 == name).map Prod.snd

end Patchwork
