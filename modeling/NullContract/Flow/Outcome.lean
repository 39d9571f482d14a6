import NullContract.Env

/-!
What executing a block leaves behind, and how outcomes combine along a sequence, at a branching and
around a loop. The states at the return statements are listed in the order in which the statements
stand in the text, whether they are reached or not.
-/

namespace NullContract

/-- The states in which a block ends, by the way it ends. `raised` joins the states after each statement
that was executed, at any depth: an exception may leave the block there. -/
structure Outcome where
  next : State
  broke : State := none
  continued : State := none
  raised : State := none
  returned : List State := []

namespace Outcome

def merge (a b : Outcome) : Outcome where
  next := a.next.join b.next
  broke := a.broke.join b.broke
  continued := a.continued.join b.continued
  raised := a.raised.join b.raised
  returned := a.returned ++ b.returned

def followedBy (a b : Outcome) : Outcome :=
  { a.merge b with next := b.next }

/-- A statement of a block and the rest of the block: an exception may leave between the two. -/
def cons (s rest : Outcome) : Outcome :=
  let out := s.followedBy rest
  { out with raised := s.next.join out.raised }

def afterLoop (body : Outcome) (orelse : Outcome) : Outcome where
  next := orelse.next.join body.broke
  broke := orelse.broke
  continued := orelse.continued
  raised := body.raised.join orelse.raised
  returned := body.returned ++ orelse.returned

/-- Adds what happened in an earlier round of a loop: the breaks of that round do not count, because the
last round has them as well. -/
def withEarlier (earlier last : Outcome) : Outcome :=
  { last with
    raised := earlier.raised.join last.raised
    returned := List.zipWith State.join earlier.returned last.returned }

end Outcome

def Outcome.nextHead (head : State) (round : Outcome) : State :=
  (head.join round.next).join round.continued

/-- Runs rounds of a loop body until the head of the loop is stable, or for one round more than `fuel`.
Gives the last head, and the last round together with what left the loop in the rounds before. -/
def iterate (round : State → Outcome) : (fuel : Nat) → (head : State) → State × Outcome
  | 0, head => (head, round head)
  | fuel + 1, head =>
    let out := round head
    let next := out.nextHead head
    if next = head then (head, out)
    else
      let (final, last) := iterate round fuel next
      (final, out.withEarlier last)

end NullContract
