/-!
The two methods by which a request may travel.
-/

namespace Scep

inductive Method where
  | get
  | post
  deriving DecidableEq, Repr

def Method.name : Method → String
  | get => "GET"
  | post => "POST"

def Method.ofName? (text : String) : Option Method :=
  if text = Method.get.name then some .get
  else if text = Method.post.name then some .post
  else none

end Scep
