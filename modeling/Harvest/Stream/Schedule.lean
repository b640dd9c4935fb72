import Harvest.Stream.Pool

/-!
# One order of steps

`Pool.settle` lets the workers of a pool go on until none of them has anything left to do, in one
particular order: subscribers are announced first, then the workers move, the first of them that can
before the others, and time is up only when nobody can move. Whoever closes the pool waits until all of
that is done.
-/

namespace Harvest.Pool

variable {σ : Type}

/-- What a worker does as long as there is time; `breaks` tells at which urls the scraper breaks down. -/
def nextMove? (s : Scraper σ) (breaks : σ → String → Bool) (p : Pool σ) : Worker → Option (Move σ)
  | .idle => if !p.queue.isEmpty then some .pick else if p.accepting then none else some .stop
  | .fetching task =>
    some (if breaks p.scraping task.url then .crash (s.scrapeUrl task.url p.scraping).2 else .fetch)
  | .reading _ _ => some .read
  | .scraped _ _ => some (.setDeadline 0)
  | .publishing _ _ .arming => some .arm
  | .publishing _ _ (.scanning _) => some .take
  | .publishing _ _ (.sending _ _) => some .send
  | .publishing _ _ (.waiting true) => some .wake
  | .publishing _ _ (.waiting false) => none
  | .stopped => none
  | .failed => none

/-- What a worker does when the time is up. -/
def lateMove? : Worker → Option (Move σ)
  | .publishing _ _ (.waiting false) => some .expire
  | _ => none

/-- The first worker that has a move, with the move. -/
def firstMove? (choose : Worker → Option (Move σ)) (w : Nat) : List Worker → Option (PoolStep σ)
  | [] => none
  | worker :: more =>
    match choose worker with
    | some move => some (.work w move)
    | none => firstMove? choose (w + 1) more

/-- The next step. -/
def nextStep? (s : Scraper σ) (breaks : σ → String → Bool) (p : Pool σ) : Option (PoolStep σ) :=
  match p.announcing with
  | n :: _ => some (.announce n)
  | [] =>
    match firstMove? (p.nextMove? s breaks) 0 p.workers with
    | some step => some step
    | none =>
      match firstMove? lateMove? 0 p.workers with
      | some step => some step
      | none => p.closing.map fun _ => .joined

/-- At most `bound` steps. -/
def run (s : Scraper σ) (breaks : σ → String → Bool) : Nat → Pool σ → Pool σ
  | 0, p => p
  | bound + 1, p =>
    match (p.nextStep? s breaks).bind (p.step? s) with
    | some next => run s breaks bound next
    | none => p

/-- A number of steps that is enough for all there is to do: a task is picked, fetched, read, gets its
deadline and is ended, and looks for subscribers in at most two rounds. -/
def effort (p : Pool σ) : Nat :=
  p.announcing.length + p.workers.length + 1 +
    (p.queue.length + p.workers.length) * (11 + 4 * p.subscriptions.length)

/-- Lets the workers go on until none of them has anything left to do. -/
def settle (s : Scraper σ) (breaks : σ → String → Bool) (p : Pool σ) : Pool σ :=
  run s breaks p.effort p

end Harvest.Pool
