import Harvest.Scrape.Basic
import Harvest.Stream.Subscribers

/-!
# Worker pools

A `Pool` of workers takes urls from a queue and scrapes them. What comes of a url goes to the first who
subscribed to it and still listens. If there is nobody, the worker waits: for a new subscriber, or for
the time to be up, when what it has is dropped.

Everybody works at the same time. `Pool.step?` says which steps are possible in a state and what they
lead to; a run of a pool is a list of steps, in any order that is possible. A worker that publishes begins
each round by getting ready to be woken up (`Stage.arming`) before it looks for subscribers, and a new
subscriber is entered before the workers are woken up, so that nobody is missed in between.

Before a worker looks for the first time it sets the moment at which the time will be up, and it breaks
down if the clock does not go as far (`Move.setDeadline`). A scraper that breaks down (`Move.crash`)
does no harm to the worker. To close a pool takes two steps: `PoolStep.close` begins to wait for the
workers, and `PoolStep.joined` is the end of it, unless whoever waits gives up in between.

Two things are coarser than they could be. A call of the scraper is a single step, whatever other
workers do in the meantime. And apart from the moment that is set the steps carry no time: a worker that
has looked and found nobody may drop the outcome at any moment (`Move.expire`), however long it has
waited. So what holds of all runs holds for every timeout that the clock can tell. Log messages are left
out.
-/

namespace Harvest

/-- What comes of a url. -/
abbrev Outcome := Except ScrapeError Rows

/-- A url that was accepted, with its number. -/
structure Task where
  number : Nat
  url : String
  deriving DecidableEq, Repr

/-- What became of a task. -/
inductive Fate where
  /-- A subscriber got the outcome. -/
  | delivered (subscriber : Nat)
  /-- Nobody subscribed in time. -/
  | expired
  /-- The scraper broke down. -/
  | crashed
  /-- The worker broke down before it looked for a subscriber. -/
  | abandoned
  deriving DecidableEq, Repr

/-- How long an outcome is kept for a subscriber to come, and how far the clock goes, in nanoseconds. -/
structure Patience where
  timeout : Nat
  /-- The last moment that the clock can tell. -/
  latest : Nat
  deriving DecidableEq, Repr

/-- Five seconds, by a clock that counts seconds with 63 bits. -/
def Patience.usual : Patience where
  timeout := 5000000000
  latest := 9223372036854775807999999999

/-- The moment at which the time is up for an outcome that there is now. -/
def Patience.deadline? (patience : Patience) (now : Nat) : Option Nat :=
  if now + patience.timeout ≤ patience.latest then some (now + patience.timeout) else none

/-- How far a worker has come with publishing; `woken` says that somebody has subscribed since the
worker got ready to be woken up. -/
inductive Stage where
  | arming
  | scanning (woken : Bool)
  /-- Has taken out a subscriber. -/
  | sending (woken : Bool) (subscriber : Nat)
  | waiting (woken : Bool)
  deriving DecidableEq, Repr

/-- The stage after somebody has subscribed. -/
def Stage.wake : Stage → Stage
  | .arming => .arming
  | .scanning _ => .scanning true
  | .sending _ subscriber => .sending true subscriber
  | .waiting _ => .waiting true

/-- What a worker is at. -/
inductive Worker where
  | idle
  | fetching (task : Task)
  | reading (task : Task) (bytes : List UInt8)
  /-- Has an outcome, for which no deadline has been set. -/
  | scraped (task : Task) (outcome : Outcome)
  | publishing (task : Task) (outcome : Outcome) (stage : Stage)
  | stopped
  /-- Has broken down. -/
  | failed

namespace Worker

/-- The worker after somebody has subscribed. -/
def wake : Worker → Worker
  | .publishing task outcome stage => .publishing task outcome stage.wake
  | worker => worker

/-- The task that a worker is at. -/
def task? : Worker → Option Task
  | .fetching task => some task
  | .reading task _ => some task
  | .scraped task _ => some task
  | .publishing task _ _ => some task
  | _ => none

/-- Whether a worker has ended. -/
def hasEnded : Worker → Bool
  | .stopped => true
  | .failed => true
  | _ => false

end Worker

/-- What has become of a subscription. -/
inductive SubscriptionStatus where
  | listening
  | hungUp
  | received (outcome : Outcome)

/-- A subscription to a url. -/
structure Subscription where
  url : String
  status : SubscriptionStatus

/-- Whether a subscription waits for its outcome. -/
def Subscription.isListening (s : Subscription) : Bool :=
  match s.status with
  | .listening => true
  | _ => false

/-- What a worker can do; `σ` is the state of the scraper. -/
inductive Move (σ : Type) where
  /-- Takes a url from the queue. -/
  | pick
  | fetch
  | read
  /-- The scraper breaks down, which leaves it in some state. -/
  | crash (scraping : σ)
  /-- Sets the moment at which the time is up. -/
  | setDeadline (now : Nat)
  | arm
  /-- Takes out a subscriber. -/
  | take
  | send
  /-- Looks again, since somebody has subscribed. -/
  | wake
  /-- Drops the outcome, since the time is up. -/
  | expire
  | stop
  deriving DecidableEq, Repr

/-- What can happen to a pool. -/
inductive PoolStep (σ : Type) where
  /-- Queues a url. -/
  | add (url : String)
  /-- Enters a new subscriber. -/
  | subscribe (url : String)
  /-- Wakes up the workers for a subscriber who has been entered. -/
  | announce (subscriber : Nat)
  | hangUp (subscriber : Nat)
  /-- Begins to close the pool. -/
  | close
  /-- Waits for the workers no longer, though some may be running. -/
  | giveUp
  /-- Has waited for the workers, all of which have ended. -/
  | joined
  | work (worker : Nat) (move : Move σ)
  deriving DecidableEq, Repr

/-- Workers with their queue and their subscribers; `σ` is the state of the scraper. -/
structure Pool (σ : Type) where
  patience : Patience
  scraping : σ
  /-- Whether urls are accepted. -/
  accepting : Bool
  queue : List Task
  workers : List Worker
  subscribers : Subscribers
  /-- All subscriptions, by their numbers. -/
  subscriptions : List Subscription
  /-- The subscribers that workers have still to be woken up for. -/
  announcing : List Nat
  /-- All tasks that were accepted, by their numbers. -/
  accepted : List Task
  finished : List (Task × Fate)
  /-- The workers that closing the pool will wait for. -/
  handles : List Nat
  /-- The workers that are waited for while the pool is being closed. -/
  closing : Option (List Nat)

/-- One less than the number of processors, and at least one. -/
def defaultWorkers (processors : Option Nat) : Nat :=
  max 1 ((processors.map (· - 1)).getD 1)

namespace Pool

variable {σ : Type}

/-- A pool that nothing has happened to. There is always a worker. -/
def startWith (patience : Patience) (workers : Nat) (scraping : σ) : Pool σ where
  patience := patience
  scraping := scraping
  accepting := true
  queue := []
  workers := List.replicate (max 1 workers) .idle
  subscribers := .empty
  subscriptions := []
  announcing := []
  accepted := []
  finished := []
  handles := List.range (max 1 workers)
  closing := none

/-- A pool that keeps outcomes as long as usual. -/
def start (workers : Nat) (scraping : σ) : Pool σ :=
  startWith .usual workers scraping

variable (p : Pool σ)

/-- How many urls the queue holds: one for each worker. -/
def capacity : Nat :=
  p.workers.length

/-- Whether a subscriber waits for an outcome. -/
def listening (subscriber : Nat) : Bool :=
  ((p.subscriptions[subscriber]?).map Subscription.isListening).getD false

/-- Whether all workers have ended. -/
def isDeserted : Bool :=
  p.workers.all Worker.hasEnded

/-- Whether a worker has ended. -/
def hasEnded (w : Nat) : Bool :=
  ((p.workers[w]?).map Worker.hasEnded).getD true

/-- Changes what a worker is at. -/
def setWorker (w : Nat) (worker : Worker) : Pool σ :=
  { p with workers := p.workers.set w worker }

/-- Ends a task. -/
def finish (w : Nat) (task : Task) (fate : Fate) : Pool σ :=
  { p with workers := p.workers.set w .idle, finished := p.finished ++ [(task, fate)] }

/-- Ends a task and the worker that is at it. -/
def abandon (w : Nat) (task : Task) : Pool σ :=
  { p with workers := p.workers.set w .failed, finished := p.finished ++ [(task, .abandoned)] }

/-- Changes what has become of a subscription. -/
def setStatus (subscriber : Nat) (status : SubscriptionStatus) : Pool σ :=
  { p with subscriptions := p.subscriptions.modify subscriber fun s => { s with status := status } }

/-- Queues a url, and tells whether it is accepted; waits while the queue is full. When all workers have
ended there is nobody to take it, and what the queue still holds is lost. -/
def add? (url : String) : Option (Bool × Pool σ) :=
  if !p.accepting || p.isDeserted then some (false, p)
  else if p.queue.length < p.capacity then
    let task : Task := ⟨p.accepted.length, url⟩
    some (true, { p with queue := p.queue ++ [task], accepted := p.accepted ++ [task] })
  else none

/-- Enters a new subscriber, and tells the number. -/
def subscribe (url : String) : Nat × Pool σ :=
  let number := p.subscriptions.length
  (number,
    { p with
      subscribers := p.subscribers.add p.listening url number
      subscriptions := p.subscriptions ++ [⟨url, .listening⟩]
      announcing := p.announcing ++ [number] })

/-- Wakes up the workers for a subscriber who has been entered. -/
def announce? (subscriber : Nat) : Option (Pool σ) :=
  if p.announcing.contains subscriber then
    some { p with
      announcing := p.announcing.erase subscriber
      workers := p.workers.map Worker.wake }
  else none

/-- Ends a subscription without an outcome. -/
def hangUp? (subscriber : Nat) : Option (Pool σ) :=
  if p.listening subscriber then some (p.setStatus subscriber .hungUp) else none

/-- Accepts no more urls, and begins to wait for the workers. -/
def close : Pool σ :=
  { p with accepting := false, handles := [], closing := some p.handles }

/-- Waits for the workers no longer. They are not waited for again. -/
def giveUp? : Option (Pool σ) :=
  p.closing.map fun _ => { p with closing := none }

/-- Waits for the workers no longer, since they have ended. -/
def join? : Option (Pool σ) :=
  p.closing.bind fun awaited =>
    if awaited.all p.hasEnded then some { p with closing := none } else none

/-- Takes out a subscriber for an outcome, or waits for one. -/
def takeFor (w : Nat) (task : Task) (outcome : Outcome) (woken : Bool) : Pool σ :=
  match p.subscribers.take p.listening task.url with
  | (some n, subscribers) =>
    { p with subscribers := subscribers }.setWorker w (.publishing task outcome (.sending woken n))
  | (none, subscribers) =>
    { p with subscribers := subscribers }.setWorker w (.publishing task outcome (.waiting woken))

/-- Hands an outcome to a subscriber; goes on looking if the subscriber has hung up. -/
def sendTo (w : Nat) (task : Task) (outcome : Outcome) (woken : Bool) (n : Nat) : Pool σ :=
  if p.listening n then (p.setStatus n (.received outcome)).finish w task (.delivered n)
  else p.setWorker w (.publishing task outcome (.scanning woken))

/-- Fetches the url of a task. -/
def fetchFor (s : Scraper σ) (w : Nat) (task : Task) : Pool σ :=
  match s.scrapeUrl task.url p.scraping with
  | (.error e, scraping) =>
    { p with scraping := scraping }.setWorker w (.scraped task (.error e))
  | (.ok bytes, scraping) => { p with scraping := scraping }.setWorker w (.reading task bytes)

/-- Takes the rows out of what was fetched. -/
def readFor (s : Scraper σ) (w : Nat) (task : Task) (bytes : List UInt8) : Pool σ :=
  let (outcome, scraping) := s.rows bytes p.scraping
  { p with scraping := scraping }.setWorker w (.scraped task outcome)

/-- Begins to publish an outcome, if the clock can tell when the time will be up. -/
def publishFrom (w : Nat) (task : Task) (outcome : Outcome) (now : Nat) : Pool σ :=
  match p.patience.deadline? now with
  | some _ => p.setWorker w (.publishing task outcome .arming)
  | none => p.abandon w task

/-- The pool after a move of a worker, if the move is possible. -/
def move? (s : Scraper σ) (w : Nat) : Worker → Move σ → Option (Pool σ)
  | .idle, .pick =>
    match p.queue with
    | [] => none
    | task :: more => some ({ p with queue := more }.setWorker w (.fetching task))
  | .idle, .stop =>
    if !p.accepting && p.queue.isEmpty then some (p.setWorker w .stopped) else none
  | .fetching task, .fetch => some (p.fetchFor s w task)
  | .fetching task, .crash scraping => some ({ p with scraping := scraping }.finish w task .crashed)
  | .reading task bytes, .read => some (p.readFor s w task bytes)
  | .reading task _, .crash scraping => some ({ p with scraping := scraping }.finish w task .crashed)
  | .scraped task outcome, .setDeadline now => some (p.publishFrom w task outcome now)
  | .publishing task outcome .arming, .arm =>
    some (p.setWorker w (.publishing task outcome (.scanning false)))
  | .publishing task outcome (.scanning woken), .take => some (p.takeFor w task outcome woken)
  | .publishing task outcome (.sending woken n), .send => some (p.sendTo w task outcome woken n)
  | .publishing task outcome (.waiting true), .wake =>
    some (p.setWorker w (.publishing task outcome .arming))
  | .publishing task _ (.waiting false), .expire => some (p.finish w task .expired)
  | _, _ => none

/-- The pool after a step, if the step is possible. A pool is not closed twice at the same time. -/
def step? (s : Scraper σ) : PoolStep σ → Option (Pool σ)
  | .add url => (p.add? url).map Prod.snd
  | .subscribe url => some (p.subscribe url).2
  | .announce n => p.announce? n
  | .hangUp n => p.hangUp? n
  | .close => if p.closing.isNone then some p.close else none
  | .giveUp => p.giveUp?
  | .joined => p.join?
  | .work w move => (p.workers[w]?).bind fun worker => p.move? s w worker move

end Pool

end Harvest
