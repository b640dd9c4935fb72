import Harvest.Fields

/-!
# Subscribers

`Subscribers` keeps the numbers of those who wait for urls, for each url in the order in which they
came. Who still listens is known elsewhere: `Subscribers.take` passes over those who do not, and
`Subscribers.add` removes them all. No url is kept without a subscriber.
-/

namespace Harvest

/-- Those who wait for urls. -/
structure Subscribers where
  waiting : Fields (List Nat)
  deriving DecidableEq, Repr

namespace Subscribers

/-- Nobody waits. -/
def empty : Subscribers := ⟨[]⟩

/-- Those who wait for a url. -/
def queue (s : Subscribers) (url : String) : List Nat :=
  (Fields.find? url s.waiting).getD []

/-- Those who still listen. -/
def prune (listening : Nat → Bool) (s : Subscribers) : Subscribers :=
  ⟨(s.waiting.map fun q => (q.1, q.2.filter listening)).filter fun q => !q.2.isEmpty⟩

/-- Removes those who do not listen any more, and lets one more wait for a url. -/
def add (listening : Nat → Bool) (url : String) (subscriber : Nat) (s : Subscribers) : Subscribers :=
  let kept := s.prune listening
  ⟨Fields.insert url (kept.queue url ++ [subscriber]) kept.waiting⟩

/-- The first of a queue who listens, and those behind. -/
def firstListening (listening : Nat → Bool) : List Nat → Option Nat × List Nat
  | [] => (none, [])
  | n :: more => if listening n then (some n, more) else firstListening listening more

/-- Takes out the first who waits for a url and still listens. -/
def take (listening : Nat → Bool) (url : String) (s : Subscribers) : Option Nat × Subscribers :=
  match Fields.find? url s.waiting with
  | none => (none, s)
  | some queue =>
    let (found, rest) := firstListening listening queue
    (found, ⟨if rest.isEmpty then Fields.erase url s.waiting else Fields.insert url rest s.waiting⟩)

/-- The urls that somebody waits for. -/
def urls (s : Subscribers) : List String :=
  Fields.keys s.waiting

end Subscribers

end Harvest
