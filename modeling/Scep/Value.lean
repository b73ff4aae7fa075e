/-!
Values of documents before anything is known about their meaning.
-/

namespace Scep

inductive Value where
  | null
  | flag (value : Bool)
  | whole (value : Int)
  | real (value : Float)
  | text (value : String)
  | other
  | list (items : List Value)
  | table (entries : List (Value × Value))
  deriving Inhabited

namespace Value

def lookup (entries : List (Value × Value)) (name : String) : Option Value :=
  (entries.reverse.find? fun entry =>
    match entry.1 with
    | .text key => key == name
    | _ => false).map Prod.snd

def isBlank : Value → Bool
  | null => true
  | flag value => !value
  | whole value => value == 0
  | real value => value == 0.0
  | text value => value.isEmpty
  | other => false
  | list items => items.isEmpty
  | table entries => entries.isEmpty

end Value

end Scep
