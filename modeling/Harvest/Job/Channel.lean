/-!
# Channels

A traversal runs beside its consumer, and its records pass through a channel that holds only so many of
them. `Delivery` is the state of both: the producer first reserves a place in the channel, then puts the
record there, and then counts it; the consumer takes records out, and may hang up at any time. A record
that is put into the channel after that is discarded, as are the ones that lie there. A producer without
a place finds out that nobody listens any more, and ends.

`Delivery.step?` says which steps are possible and what they lead to; they may come in any order that is
possible. `Delivery.deliver` is the order in which the producer goes as far as it can before the consumer
takes the next record.
-/

namespace Harvest

/-- How many records a channel holds. -/
def channelCapacity : Nat := 16

/-- What the producer is about to do. -/
inductive Producer (α : Type) where
  | ready
  /-- Puts a record in the place it has reserved. -/
  | holding (record : α)
  /-- Counts the record that it has sent. -/
  | sent
  | ended
  deriving DecidableEq, Repr

/-- The state of a producer, its channel and its consumer. -/
structure Delivery (α : Type) where
  /-- The records that the producer has still to send. -/
  source : List α
  producer : Producer α
  /-- The records in the channel. -/
  buffer : List α
  received : List α
  /-- The records that were sent, but not received before the consumer hung up. -/
  discarded : List α
  /-- Whether the consumer has not hung up. -/
  listening : Bool
  /-- How many records the producer has counted. -/
  counted : Nat
  deriving DecidableEq, Repr

/-- A step of the producer or the consumer. -/
inductive DeliveryStep where
  | reserve
  | push
  | count
  /-- The producer finds that nobody listens. -/
  | giveUp
  /-- The producer has no more records. -/
  | finish
  | receive
  | hangUp
  deriving DecidableEq, Repr

namespace Delivery

variable {α : Type}

/-- Nothing has been sent. -/
def start (records : List α) : Delivery α :=
  ⟨records, .ready, [], [], [], true, 0⟩

/-- The state after a step, if the step is possible. -/
def step? (d : Delivery α) : DeliveryStep → Option (Delivery α)
  | .reserve =>
    match d.producer, d.source with
    | .ready, r :: more =>
      if d.listening && d.buffer.length < channelCapacity then
        some { d with source := more, producer := .holding r }
      else none
    | _, _ => none
  | .push =>
    match d.producer with
    | .holding r =>
      if d.listening then some { d with producer := .sent, buffer := d.buffer ++ [r] }
      else some { d with producer := .sent, discarded := d.discarded ++ [r] }
    | _ => none
  | .count =>
    match d.producer with
    | .sent => some { d with producer := .ready, counted := d.counted + 1 }
    | _ => none
  | .giveUp =>
    match d.producer, d.source with
    | .ready, _ :: _ => if d.listening then none else some { d with producer := .ended }
    | _, _ => none
  | .finish =>
    match d.producer, d.source with
    | .ready, [] => some { d with producer := .ended }
    | _, _ => none
  | .receive =>
    match d.buffer with
    | r :: more =>
      if d.listening then some { d with buffer := more, received := d.received ++ [r] } else none
    | [] => none
  | .hangUp =>
    if d.listening then
      some { d with listening := false, buffer := [], discarded := d.discarded ++ d.buffer }
    else none

/-- Whether the consumer is told that no record will come any more. -/
def isDrained (d : Delivery α) : Bool :=
  match d.producer with
  | .ended => d.buffer.isEmpty
  | _ => false

/-- What the producer does next, unless it has to wait or has ended. -/
def producerStep? (d : Delivery α) : Option DeliveryStep :=
  match d.producer, d.source with
  | .holding _, _ => some .push
  | .sent, _ => some .count
  | .ready, [] => some .finish
  | .ready, _ :: _ =>
    if !d.listening then some .giveUp
    else if d.buffer.length < channelCapacity then some .reserve
    else none
  | .ended, _ => none

/-- What a consumer of at most `wanted` records does next. -/
def consumerStep? (wanted : Nat) (d : Delivery α) : Option DeliveryStep :=
  if !d.listening then none
  else if wanted ≤ d.received.length || d.buffer.isEmpty then some .hangUp
  else some .receive

/-- At most `bound` steps, the producer's before the consumer's. -/
def run (wanted : Nat) : Nat → Delivery α → Delivery α
  | 0, d => d
  | bound + 1, d =>
    match ((d.producerStep?).orElse fun _ => d.consumerStep? wanted).bind d.step? with
    | some e => run wanted bound e
    | none => d

/-- Sends records to a consumer of at most `wanted`. Each record takes three steps of the producer and
one of the consumer; both take one more to end. -/
def deliver (wanted : Nat) (records : List α) : Delivery α :=
  run wanted (4 * records.length + 2) (start records)

end Delivery

end Harvest
