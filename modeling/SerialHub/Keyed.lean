/-!
# Lists keyed by name

Registries of ports, sessions and devices are lists of pairs kept sorted by their text key,
with at most one pair per key. Inserting a key that is present replaces its value; the order of
the list is the order in which listings report the keys.
-/

namespace SerialHub.Keyed

/-- Inserts a key into a list sorted by key, replacing an equal key. -/
def insert {β : Type} (k : String) (v : β) : List (String × β) → List (String × β)
  | [] => [(k, v)]
  | (k', v') :: rest =>
    if k < k' then (k, v) :: (k', v') :: rest
    else if k == k' then (k, v) :: rest
    else (k', v') :: insert k v rest

/-- Removes a key. -/
def erase {β : Type} (k : String) : List (String × β) → List (String × β)
  | [] => []
  | (k', v') :: rest => if k == k' then rest else (k', v') :: erase k rest

/-- Changes the value of a key, if present. -/
def modify {β : Type} (k : String) (f : β → β) (xs : List (String × β)) : List (String × β) :=
  xs.map (fun (k', v) => if k' == k then (k', f v) else (k', v))

end SerialHub.Keyed
