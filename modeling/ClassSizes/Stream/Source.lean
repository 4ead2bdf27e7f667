import ClassSizes.Stream.Fault
import ClassSizes.Text.Utf8

/-!
# Sources

A source is everything that a reader will be handed, in order: the bytes that each read delivers,
interruptions, and at most one fault that is reached.  A read that delivers nothing is how a reader
learns of the end of the input, so that a read in the middle always delivers something; the end of
the list is the end of the input.  How the bytes are cut into deliveries is part of the source, so
that "delivery does not matter" is a statement about its consumers and not a convention.
-/

namespace ClassSizes

/-- What a read delivers before the end of the input. -/
structure Chunk where
  bytes : Bytes
  ne_nil : bytes ≠ []
  deriving DecidableEq, Repr

/-- The outcome of one read. -/
inductive Delivery where
  | bytes (chunk : Chunk)
  | interrupted
  | failed (fault : Fault)
  deriving DecidableEq, Repr

/-- The outcomes of all reads up to the end of the input. -/
abbrev Source := List Delivery

namespace Source

/-- A source that delivers everything in one read, if there is anything. -/
def whole : Bytes → Source
  | [] => []
  | first :: rest => [.bytes ⟨first :: rest, List.cons_ne_nil first rest⟩]

/-- Cut a byte string into runs of `size` bytes; `room` bytes are still missing from the run that
is under way. -/
def runsFrom (size : Nat) : Nat → Bytes → Bytes → List Bytes
  | _, [], [] => []
  | _, run, [] => [run.reverse]
  | 0, run, byte :: rest => run.reverse :: runsFrom size (size - 1) [byte] rest
  | room + 1, run, byte :: rest => runsFrom size room (byte :: run) rest

/-- A byte string cut into runs of `size` bytes, the last of which may be shorter. -/
def runs (size : Nat) (bytes : Bytes) : List Bytes :=
  runsFrom size size [] bytes

/-- A source that delivers at most `size` bytes at a time. -/
def chunked (size : Nat) (bytes : Bytes) : Source :=
  (runs size bytes).flatMap whole

/-- A source whose every read is interrupted once, the one that finds the end included. -/
def interruptedThroughout (source : Source) : Source :=
  source.flatMap (fun delivery => [.interrupted, delivery]) ++ [.interrupted]

/-- A source that reaches a fault where it would have ended. -/
def thenFails (source : Source) (fault : Fault) : Source :=
  source ++ [.failed fault]

end Source

end ClassSizes
