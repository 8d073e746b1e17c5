/-!
# Ordered association lists

Lists of keys with values, ascending by key, under an order that may take different keys as equal. Each
class of equal keys occurs once. Two ways of inserting differ in which spelling of a key survives:
`insert` takes the new key, `update` keeps the one that is there.
-/
namespace MooWorld.Assoc

variable {κ α : Type}

/-- Binds a key to a value. An entry under an equal key is replaced, key and all. -/
def insert (cmp : κ → κ → Ordering) (k : κ) (a : α) : List (κ × α) → List (κ × α)
  | [] => [(k, a)]
  | (k', a') :: rest =>
    match cmp k k' with
    | .lt => (k, a) :: (k', a') :: rest
    | .eq => (k, a) :: rest
    | .gt => (k', a') :: insert cmp k a rest

/-- Binds a key to a value. An entry under an equal key keeps its key. -/
def update (cmp : κ → κ → Ordering) (k : κ) (a : α) : List (κ × α) → List (κ × α)
  | [] => [(k, a)]
  | (k', a') :: rest =>
    match cmp k k' with
    | .lt => (k, a) :: (k', a') :: rest
    | .eq => (k', a) :: rest
    | .gt => (k', a') :: update cmp k a rest

/-- The value under a key. -/
def get? (cmp : κ → κ → Ordering) (k : κ) : List (κ × α) → Option α
  | [] => none
  | (k', a') :: rest => if cmp k k' = .eq then some a' else get? cmp k rest

/-- The list without the entry under a key. -/
def erase (cmp : κ → κ → Ordering) (k : κ) : List (κ × α) → List (κ × α)
  | [] => []
  | (k', a') :: rest => if cmp k k' = .eq then rest else (k', a') :: erase cmp k rest

/-- Inserts the entries one after another, from nothing. -/
def ofList (cmp : κ → κ → Ordering) (entries : List (κ × α)) : List (κ × α) :=
  entries.foldl (fun acc (k, a) => insert cmp k a acc) []

end MooWorld.Assoc
