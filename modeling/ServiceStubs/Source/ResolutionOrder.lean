/-!
# Resolution orders

The order in which the classes of a hierarchy are searched for attributes. Every class comes
before its bases, and the bases of a class keep the order in which they are written; the orders of
the bases are merged so that both hold, as long as that is possible.
-/

namespace ServiceStubs.Source

variable {α : Type} [DecidableEq α]

/-- Whether a class stands in a sequence after its first place. -/
def isLaterIn (candidate : α) : List α → Bool
  | [] => false
  | _ :: rest => rest.contains candidate

/-- The first head of some sequences that stands later in none of them. -/
def nextInOrder? (sequences : List (List α)) : Option α :=
  (sequences.filterMap List.head?).find? fun candidate =>
    !sequences.any (isLaterIn candidate)

/-- A sequence without a class at its head. -/
def withoutHead (chosen : α) : List α → List α
  | [] => []
  | head :: rest => if head = chosen then rest else head :: rest

/-- Sequences merged into one that keeps the order of each. When that is not possible, the heads
of the sequences that are left are the error. -/
def mergeOrders : Nat → List (List α) → Except (List α) (List α)
  | 0, sequences =>
    match sequences.filterMap List.head? with
    | [] => .ok []
    | heads => .error heads
  | steps + 1, sequences =>
    match nextInOrder? sequences with
    | some chosen => do
      let rest ← mergeOrders steps (sequences.map (withoutHead chosen))
      return chosen :: rest
    | none =>
      match sequences.filterMap List.head? with
      | [] => .ok []
      | heads => .error heads

/-- The resolution order of a class after the class itself, from the orders of its bases and the
bases as they are written. -/
def orderOfBases (orders : List (List α)) (bases : List α) : Except (List α) (List α) :=
  mergeOrders (orders.flatten.length + bases.length) (orders ++ [bases])

end ServiceStubs.Source
