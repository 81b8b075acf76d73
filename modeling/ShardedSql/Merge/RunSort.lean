import ShardedSql.Merge.Insertion
import ShardedSql.Numeric.Digits

/-!
Sorting a long list by runs. Stretches that are in order already are kept, short ones are sorted on
their own, long ones without order are divided around one of their items, and neighbours are merged
as a balanced tree would have it. Where comparisons agree with one another this is one more way to
the sorted list; where they contradict one another, the comparisons made here and no others settle
the outcome, or find that there is none.
-/

namespace ShardedSql.RunSort

open Numeric

variable {α : Type} (order : α → α → Ordering)

def less (a b : α) : Bool :=
  order a b == .lt

/-! ## Merging -/

/-- So many items of a merge from the front, and what is left of both lists. -/
def mergeFront : Nat → List α → List α → List α × List α × List α
  | steps + 1, a :: left, b :: right =>
      if less order b a then
        let (merged, behind) := mergeFront steps (a :: left) right
        (b :: merged, behind)
      else
        let (merged, behind) := mergeFront steps left (b :: right)
        (a :: merged, behind)
  | _, left, right => ([], left, right)

/-- The same from the back; every list is given and answered backwards. -/
def mergeBack : Nat → List α → List α → List α × List α × List α
  | steps + 1, a :: left, b :: right =>
      if less order b a then
        let (merged, before) := mergeBack steps left (b :: right)
        (a :: merged, before)
      else
        let (merged, before) := mergeBack steps (a :: left) right
        (b :: merged, before)
  | _, left, right => ([], left, right)

/-- Merges from the end at which the shorter list begins. -/
def mergeRuns (left right : List α) : List α :=
  let steps := left.length + right.length
  if left.length ≤ right.length then
    let (merged, restLeft, restRight) := mergeFront order steps left right
    merged ++ restLeft ++ restRight
  else
    let (merged, restLeft, restRight) := mergeBack order steps left.reverse right.reverse
    (merged ++ restLeft ++ restRight).reverse

/-- Merges the two halves of a list from both ends until the ends meet; the second half may be
longer by one. The ends miss each other only where comparisons contradict one another. -/
def mergeHalves (left right : List α) : Option (List α) :=
  let (front, leftBehind, rightBehind) := mergeFront order left.length left right
  let (back, leftBefore, _) := mergeBack order left.length left.reverse right.reverse
  let odd := left.length < right.length
  let taken := left.length - leftBehind.length
  let leftOver := odd && taken < leftBefore.length
  let middle :=
    if leftOver then leftBehind.take 1 else if odd then rightBehind.take 1 else []
  if taken + leftOver.toNat = leftBefore.length then some (front ++ middle ++ back.reverse)
  else none

/-! ## Short lists -/

/-- Four items in order by five comparisons: two pairs, their outer items, then the other two. -/
def sortFour (w x y z : α) : List α :=
  let (a, b) := if less order x w then (x, w) else (w, x)
  let (c, d) := if less order z y then (z, y) else (y, z)
  let startsWithC := less order c a
  let endsWithB := less order d b
  let first := if startsWithC then c else a
  let last := if endsWithB then b else d
  let left := if startsWithC then a else if endsWithB then c else b
  let right := if endsWithB then d else if startsWithC then b else c
  if less order right left then [first, right, left, last] else [first, left, right, last]

/-- A sorted beginning with further items inserted one by one. -/
def insertAll (sorted rest : List α) : List α :=
  (sortFromEnd order sorted.reverse rest).reverse

/-- The half of a short list; in the longer ones of these, four items are sorted first. -/
def sortHalf (whole : Nat) : List α → List α
  | w :: x :: y :: z :: rest =>
      if whole < 8 then insertAll order [w] (x :: y :: z :: rest)
      else insertAll order (sortFour order w x y z) rest
  | half => insertAll order [] half

/-- The items that are sorted without dividing them further. -/
def shortLength : Nat := 32

def sortShort (items : List α) : Option (List α) :=
  let (left, right) := items.splitAt (items.length / 2)
  if items.length < 2 then some items
  else mergeHalves order (sortHalf order items.length left) (sortHalf order items.length right)

/-! ## Runs -/

/-- A stretch of the list, in order or not yet. -/
structure Run (α : Type) where
  items : List α
  sorted : Bool

/-- How many items go on falling, or go on without falling, the given one included. -/
def runLength (falling : Bool) (last : α) : List α → Nat
  | [] => 1
  | next :: rest => if less order next last == falling then runLength falling next rest + 1 else 1

/-- The run at the front: as it stands or turned around if it is long enough, and otherwise a short
stretch that is sorted at once or a good stretch that is left as it is. -/
def nextRun (atOnce : Bool) (goodLength : Nat) (items : List α) : Option (Run α × List α) :=
  let (falling, length) := match items with
    | first :: second :: rest =>
        let falling := less order second first
        (falling, runLength order falling first (second :: rest))
    | rest => (false, rest.length)
  if goodLength ≤ length then
    let run := items.take length
    some (⟨if falling then run.reverse else run, true⟩, items.drop length)
  else if atOnce then
    (sortShort order (items.take shortLength)).map fun sorted =>
      (⟨sorted, true⟩, items.drop shortLength)
  else some (⟨items.take goodLength, false⟩, items.drop goodLength)

/-- Sorts the items of a run that is not in order yet. -/
def Run.finish (sort : List α → Option (List α)) (run : Run α) : Option (List α) :=
  if run.sorted then some run.items else sort run.items

/-- Two neighbours as one run; as long as neither is in order they are only put together. -/
def join (sort : List α → Option (List α)) (left right : Run α) : Option (Run α) :=
  if left.sorted || right.sorted then do
    return ⟨mergeRuns order (← left.finish sort) (← right.finish sort), true⟩
  else some ⟨left.items ++ right.items, false⟩

/-- Runs that wait to be joined, the last one first, each with its depth in the tree of merges. -/
abbrev Waiting (α : Type) := List (Run α × Nat)

/-- Joins a run with those before it that lie no less deep. -/
def joinDeep (sort : List α → Option (List α)) (depth : Nat) :
    Waiting α → Run α → Option (Waiting α × Run α)
  | [], run => some ([], run)
  | (left, d) :: waiting, run =>
      if depth ≤ d then do joinDeep sort depth waiting (← join order sort left run)
      else some ((left, d) :: waiting, run)

/-- How deep the merge of two neighbours lies in a balanced tree over the whole list: the first bit
in which their middles differ, on a scale that the whole list fills. -/
def mergeDepth (whole start middle stop : Nat) : Nat :=
  let scale := (2 ^ (62 : Nat) + whole - 1) / whole
  63 - ((scale * (start + middle)) ^^^ (scale * (middle + stop))).log2

/-- How long a run has to be to stay as it is: about the square root of a very long list. -/
def goodLength (whole : Nat) : Nat :=
  if whole ≤ 4096 then min (whole - whole / 2) 64
  else
    let shift := (1 + whole.log2) / 2
    (2 ^ shift + whole / 2 ^ shift) / 2

/-- Goes through the runs of the list; `current` is the last one, and `position` is behind it. -/
def joinAll (atOnce : Bool) (sort : List α → Option (List α)) (whole : Nat) :
    Nat → Waiting α → Run α → Nat → List α → Option (Run α)
  | 0, _, _, _, _ => none
  | fuel + 1, waiting, current, position, rest =>
      if rest.isEmpty then (joinDeep order sort 0 waiting current).map (·.2)
      else do
        let (next, rest) ← nextRun order atOnce (goodLength whole) rest
        let stop := position + next.items.length
        let depth := mergeDepth whole (position - current.items.length) position stop
        let (waiting, joined) ← joinDeep order sort depth waiting current
        joinAll atOnce sort whole fuel ((joined, depth) :: waiting) next stop rest

/-- Sorts by runs; `sort` is for those that are not in order yet. -/
def sortRuns (atOnce : Bool) (sort : List α → Option (List α)) (items : List α) :
    Option (List α) := do
  let whole := items.length
  let (first, rest) ← nextRun order atOnce (goodLength whole) items
  let run ← joinAll order atOnce sort whole whole [] first first.items.length rest
  run.finish sort

/-! ## Division -/

/-- The place whose item lies between those of the other two. -/
def medianOfThree (lessAt : Nat → Nat → Bool) (a b c : Nat) : Nat :=
  let below := lessAt a b
  if below == lessAt a c then
    if lessAt b c == below then b else c
  else a

/-- A place near the median: the median of three, each of them found alike in its own stretch. -/
def medianNear (lessAt : Nat → Nat → Bool) (stretch a b c : Nat) : Nat :=
  if stretch < 8 then medianOfThree lessAt a b c
  else
    let near (start : Nat) :=
      medianNear lessAt (stretch / 8) start (start + stretch / 8 * 4) (start + stretch / 8 * 7)
    medianOfThree lessAt (near a) (near b) (near c)
termination_by stretch

/-- The place of the item that a list is divided around. -/
def pivotPlace (items : List α) : Nat :=
  let places := items.toArray
  let lessAt (i j : Nat) : Bool :=
    match places[i]?, places[j]? with
    | some a, some b => less order a b
    | _, _ => false
  let eighth := items.length / 8
  medianNear lessAt eighth 0 (eighth * 4) (eighth * 7)

/-- The items that go left and those that go right, both in the order they had; where the item at
`place` goes is given. -/
def divide (place : Nat) (placeLeft : Bool) (goesLeft : α → Bool) (items : List α) :
    List α × List α :=
  let (left, right) := items.zipIdx.partition fun (item, i) =>
    if i = place then placeLeft else goesLeft item
  (left.map (·.1), right.map (·.1))

/-- Sorts by division at most `limit` deep, and by runs below. No item is less than `ancestor`;
items that are not greater either are taken out together. -/
def divideSort : Nat → Option α → List α → Option (List α)
  | 0, _, items =>
      if items.length ≤ shortLength then sortShort order items
      else sortRuns order true some items
  | limit + 1, ancestor, items =>
      if items.length ≤ shortLength then sortShort order items
      else do
        let place := pivotPlace order items
        let pivot ← items[place]?
        let (left, right) := divide place false (less order · pivot) items
        if left.isEmpty || ancestor.any (!less order · pivot) then
          let (same, right) := divide place true (!less order pivot ·) items
          return same ++ (← divideSort limit none right)
        else
          let right ← divideSort limit (some pivot) right
          return (← divideSort limit ancestor left) ++ right

/-- How often a list may be divided before division is given up: about twice as often as halving
would take. -/
def divisionLimit (whole : Nat) : Nat :=
  2 * whole.log2

/-- Sorts a long list, if the comparisons let themselves be followed to an end. -/
def sort (items : List α) : Option (List α) :=
  sortRuns order (items.length ≤ 2 * shortLength)
    (fun stretch => divideSort order (divisionLimit stretch.length) none stretch) items

end ShardedSql.RunSort
