import Scep.Settings.Basic
import Scep.Text.Quoted

/-!
What may be wrong with the value of a setting, and checks that find all of it.
-/

namespace Scep.Settings

inductive Step where
  | name (name : String)
  | index (index : Nat)
  deriving DecidableEq, Repr

inductive Issue where
  | noRecord (model : String)
  | missing
  | noWhole
  | wholeUnreadable
  | wholeTooLong
  | fractional
  | infinite
  | below (least : Int)
  | above (most : Int)
  | noReal
  | realUnreadable
  | notPositive
  | noText
  | noPath
  | noList
  | noFlag
  | flagUnreadable
  | noLevel
  | badRoute (path : String)
  | badCapability (token : String)
  | frozen
  deriving DecidableEq, Repr

namespace Issue

def name : Issue → String
  | noRecord _ => "model_type"
  | missing => "missing"
  | noWhole => "int_type"
  | wholeUnreadable => "int_parsing"
  | wholeTooLong => "int_parsing_size"
  | fractional => "int_from_float"
  | infinite => "finite_number"
  | below _ => "greater_than_equal"
  | above _ => "less_than_equal"
  | noReal => "float_type"
  | realUnreadable => "float_parsing"
  | notPositive => "greater_than"
  | noText => "string_type"
  | noPath => "path_type"
  | noList => "list_type"
  | noFlag => "bool_type"
  | flagUnreadable => "bool_parsing"
  | noLevel => "enum"
  | badRoute _ | badCapability _ => "value_error"
  | frozen => "frozen_instance"

def message : Issue → String
  | noRecord model => "Input should be a valid dictionary or instance of " ++ model
  | missing => "Field required"
  | noWhole => "Input should be a valid integer"
  | wholeUnreadable => "Input should be a valid integer, unable to parse string as an integer"
  | wholeTooLong =>
    "Unable to parse input string as an integer, exceeded maximum size"
  | fractional => "Input should be a valid integer, got a number with a fractional part"
  | infinite => "Input should be a finite number"
  | below least => "Input should be greater than or equal to " ++ toString least
  | above most => "Input should be less than or equal to " ++ toString most
  | noReal => "Input should be a valid number"
  | realUnreadable => "Input should be a valid number, unable to parse string as a number"
  | notPositive => "Input should be greater than 0"
  | noText => "Input should be a valid string"
  | noPath => "Input is not a valid path for <class \x27pathlib.Path\x27>"
  | noList => "Input should be a valid list"
  | noFlag => "Input should be a valid boolean"
  | flagUnreadable => "Input should be a valid boolean, unable to interpret input"
  | noLevel => "Input should be \x27DEBUG\x27, \x27INFO\x27, \x27WARNING\x27 or \x27ERROR\x27"
  | badRoute path =>
    "Value error, Route path must start with \x27/\x27 and not be the root: " ++ path
  | badCapability token => "Value error, Invalid capability token: " ++ Text.quoted token
  | frozen => "Instance is frozen"

end Issue

structure Finding where
  location : List Step
  issue : Issue
  deriving DecidableEq, Repr

inductive Checked (α : Type) where
  | fine (value : α)
  | faulty (findings : List Finding)
  deriving Repr

namespace Checked

def refuse {α : Type} (issue : Issue) : Checked α := .faulty [⟨[], issue⟩]

def andThen {α β : Type} (first : Checked α) (next : α → Checked β) : Checked β :=
  match first with
  | fine value => next value
  | faulty findings => .faulty findings

def under {α : Type} (step : Step) : Checked α → Checked α
  | fine value => .fine value
  | faulty findings => .faulty (findings.map fun found => { found with
      location := step :: found.location })

def both {α β : Type} (first : Checked (α → β)) (second : Unit → Checked α) : Checked β :=
  match first, second () with
  | fine make, fine value => .fine (make value)
  | fine _, faulty later => .faulty later
  | faulty earlier, fine _ => .faulty earlier
  | faulty earlier, faulty later => .faulty (earlier ++ later)

instance : Applicative Checked where
  pure := fine
  seq := both

end Checked

end Scep.Settings
