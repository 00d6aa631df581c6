/-!
# Association lists that keep their order

The entries of an object, the keyword arguments of a call and the counts of a summary are lists of
pairs with distinct keys, in the order in which the keys came first.

* `Assoc.put`: a new key comes last; a key that is there keeps its place and gets the new value.
* `Assoc.ofPairs`: the pairs put one after the other.
-/

namespace Playback

namespace Assoc

variable {κ α : Type} [DecidableEq κ]

/-- The list with `value` for `key`: in the key's place if it has one, at the end otherwise. -/
def put (entries : List (κ × α)) (key : κ) (value : α) : List (κ × α) :=
  match entries with
  | [] => [(key, value)]
  | entry :: rest => if entry.1 = key then (key, value) :: rest else entry :: put rest key value

/-- The pairs put one after the other, so that the last value of a key counts. -/
def ofPairs (pairs : List (κ × α)) : List (κ × α) :=
  pairs.foldl (fun entries (key, value) => put entries key value) []

end Assoc

end Playback
