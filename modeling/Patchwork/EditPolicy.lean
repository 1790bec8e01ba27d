import Patchwork.Datum

/-! # Edit policies

What an edit does besides replacing the content of a piece, and how a policy is
read from untyped data. A reading reports every option that it cannot use, in the
order of the options. A policy written as data reads back as itself.
-/
namespace Patchwork

structure EditPolicy where
  /-- Discard the queued decorations together with the old content. -/
  overwrite : Bool := true
  /-- Mark the replacement as a renamed identifier. -/
  storeName : Bool := false
deriving DecidableEq

inductive OptionProblem
  | notRecord
  /-- A text or a number that stands for neither truth value. -/
  | unreadable
  /-- A value of a kind that no truth value is written in. -/
  | wrongKind
deriving DecidableEq

structure OptionError where
  /-- The option's name; none when the data as a whole is at fault. -/
  option : Option String
  problem : OptionProblem
deriving DecidableEq

def OptionProblem.code : OptionProblem → String
  | notRecord => "model_type"
  | unreadable => "bool_parsing"
  | wrongKind => "bool_type"

def OptionProblem.message : OptionProblem → String
  | notRecord => "Input should be a valid dictionary or instance of EditOptions"
  | unreadable => "Input should be a valid boolean, unable to interpret input"
  | wrongKind => "Input should be a valid boolean"

def flagOfWord (word : String) : Option Bool :=
  if word ∈ ["0", "off", "f", "false", "n", "no"] then some false
  else if word ∈ ["1", "on", "t", "true", "y", "yes"] then some true
  else none

/-- Numbers for the truth values: zero and one. Another number counts as an
unreadable one only if it fits a signed 64-bit word. -/
def flagOfInteger (value : Int) : Except OptionProblem Bool :=
  if value = 0 then .ok false
  else if value = 1 then .ok true
  else if -9223372036854775808 ≤ value ∧ value ≤ 9223372036854775807 then .error .unreadable
  else .error .wrongKind

/-- Words are compared without regard to the case of ASCII letters. -/
def Datum.readFlag : Datum → Except OptionProblem Bool
  | .flag value => .ok value
  | .text word =>
    match flagOfWord (word.map Char.toLower) with
    | some value => .ok value
    | none => .error .unreadable
  | datum =>
    match datum.integer? with
    | some value => flagOfInteger value
    | none => .error .wrongKind

namespace EditPolicy

def readOption (fields : List (String × Datum)) (name : String) (default : Bool) :
    Except OptionError Bool :=
  match Datum.field? fields name with
  | none => .ok default
  | some datum => datum.readFlag.mapError fun problem => ⟨some name, problem⟩

def ofDatum : Datum → Except (List OptionError) EditPolicy
  | .record fields =>
    match readOption fields "overwrite" true, readOption fields "store_name" false with
    | .ok overwrite, .ok storeName => .ok ⟨overwrite, storeName⟩
    | .error first, .ok _ => .error [first]
    | .ok _, .error second => .error [second]
    | .error first, .error second => .error [first, second]
  | _ => .error [⟨none, .notRecord⟩]

def toDatum (policy : EditPolicy) : Datum :=
  .record [("overwrite", .flag policy.overwrite), ("store_name", .flag policy.storeName)]

theorem ofDatum_toDatum (policy : EditPolicy) : ofDatum policy.toDatum = .ok policy := rfl

def roundTrips (policy : EditPolicy) : Bool :=
  match ofDatum policy.toDatum with
  | .ok again => again == policy
  | .error _ => false

theorem roundTrips_eq_true (policy : EditPolicy) : policy.roundTrips = true := by
  simp [roundTrips, ofDatum_toDatum]

end EditPolicy

end Patchwork
