import Scep.Client.Session

/-!
Any order in which the calls on a client may run.

The queue of a session is one schedule.  Here whatever stands in the queue may
be next, calls may come and be cancelled at any point, and time may pass while
others could still run.
-/

namespace Scep

theorem map_modify {First Second : Type} {shown : First → Second} {change : First → First}
    {same : Second → Second} (agree : ∀ item, shown (change item) = same (shown item))
    (items : List First) (index : Nat) :
    (items.modify index change).map shown = (items.map shown).modify index same := by
  induction items generalizing index with
  | nil => cases index <;> rfl
  | cons first rest ih =>
      cases index with
      | zero => simp only [List.modify_zero_cons, List.map_cons, agree]
      | succ index => simp only [List.modify_succ_cons, List.map_cons, ih]

namespace Session

variable {Far Held : Type}

inductive Happening where
  | called (call : Call) (deadline : Option Deadline)
  | cancelled (task : Nat)
  | performed (place : Nat)
  | passed
  | released (gate : String)
  | noted

def happen (line : Line Far Held) (session : Session Far Held) :
    Happening → Session Far Held
  | .called call deadline => session.add (.call call deadline)
  | .cancelled task => session.cancel task
  | .performed place =>
    match session.queue[place]? with
    | some entry => { session with queue := session.queue.eraseIdx place }.perform line entry
    | none => session
  | .passed => session.advance
  | .released gate => session.release gate
  | .noted => session.post .report

def run (line : Line Far Held) (session : Session Far Held) (happenings : List Happening) :
    Session Far Held :=
  happenings.foldl (happen line) session

variable {line : Line Far Held} {session : Session Far Held}

@[simp] theorem run_cons (first : Happening) (rest : List Happening) :
    session.run line (first :: rest) = (session.happen line first).run line rest := rfl

theorem run_append (before after : List Happening) :
    session.run line (before ++ after) = (session.run line before).run line after :=
  List.foldl_append

end Session

end Scep
