
namespace BenchReport.Ordered

variable {α β : Type} [Ord α]

def insert (a : α) : List α → List α
  | [] => [a]
  | b :: bs => if (compare a b).isLE then a :: b :: bs else b :: insert a bs

def sort (as : List α) : List α := as.foldr insert []

def dedupAfter (last : α) : List α → List α
  | [] => []
  | a :: as => if compare last a = .eq then dedupAfter last as else a :: dedupAfter a as

def dedup : List α → List α
  | [] => []
  | a :: as => a :: dedupAfter a as

def distinct (as : List α) : List α := dedup (sort as)

/-- Changes what is gathered under a key. A key that is not there yet starts from `zero`. -/
def update (zero : β) (change : β → β) (a : α) : List (α × β) → List (α × β)
  | [] => [(a, change zero)]
  | (b, v) :: rest =>
    match compare a b with
    | .lt => (a, change zero) :: (b, v) :: rest
    | .eq => (b, change v) :: rest
    | .gt => (b, v) :: update zero change a rest

def find? (a : α) : List (α × β) → Option β
  | [] => none
  | (b, v) :: rest =>
    match compare a b with
    | .lt => none
    | .eq => some v
    | .gt => find? a rest

end BenchReport.Ordered
