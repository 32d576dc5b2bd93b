import PgSchema.Object.Builtin.Every

/-!
What dictionaries and their views can do by themselves.
-/

namespace PgSchema.Object

/-! ### Entries -/

/-- Entries of dictionaries. -/
abbrev Row : Type := List (Value × Value)

/-- A function of dictionaries, with the place of the dictionary and its entries. -/
def dictMethod (name : String) (arity : Arity)
    (run : Machine → Nat → Row → Given → Run Value) : String × Feature :=
  (name, .builtin arity fun m self g => do
    let h ← heap
    match self with
    | .dict id => run m id (h.entries id) g
    | _ => return .null)

/-- Entries on top of others. -/
def merged (h : Heap) (entries more : Row) : Row :=
  more.foldl (fun es e => putEntry h es e.1 e.2) entries

/-- An entry of a dictionary is set. -/
def setEntry (id : Nat) (key x : Value) : Run Unit := do
  needKey key
  let h ← heap
  write id (.dict (putEntry h (h.entries id) key x))

/-- Pairs of keys and values are set one after the other. -/
def setPairs (m : Machine) (id : Nat) : Nat → List Value → Run Unit
  | _, [] => return ()
  | place, pair :: rest => do
    let h ← heap
    let what := "dictionary update sequence element #" ++ toString place
    if !hasItems h pair then
      refuse (.badSort ("cannot convert " ++ what ++ " to a sequence"))
    else
      match ← m.items pair with
      | [key, x] => do
        setEntry id key x
        setPairs m id (place + 1) rest
      | items =>
        refuse (.badArgument (what ++ " has length " ++ toString items.length ++
          "; 2 is required"))

/-- A dictionary takes over the entries that a value has or consists of. -/
def updateFrom (m : Machine) (id : Nat) : Value → Run Unit
  | .dict other => do
    let h ← heap
    write id (.dict (merged h (h.entries id) (h.entries other)))
  | v => do
    let items ← m.items v
    setPairs m id 0 items

/-- A dictionary takes over entries by name. -/
def updateNamed (id : Nat) (named : Entries Value) : Run Unit := do
  let h ← heap
  write id (.dict (merged h (h.entries id) (named.map fun (name, x) => (.text name, x))))

/-! ### Features -/

/-- An entry is taken out of a dictionary. -/
def popEntry (id : Nat) (entries : Row) (g : Given) : Run Value := do
  let key := g.nth 0
  if !entries.isEmpty then needKey key
  let h ← heap
  match lookUp h id key, g.nth? 1 with
  | some x, _ => do
    write id (.dict (entries.filter fun e => !sameValue h e.1 key))
    return x
  | none, some other => return other
  | none, none => noKey key

/-- Functions that change a dictionary. -/
def dictChanges : Entries Feature :=
  [dictMethod "pop" (.between 1 2) fun _ id entries g => popEntry id entries g,
   dictMethod "popitem" .none fun _ id entries _ =>
      match entries.getLast? with
      | some (key, x) => do
        write id (.dict entries.dropLast)
        return .tuple [key, x]
      | none => refuse (.noKey (.text "popitem(): dictionary is empty")),
   dictMethod "setdefault" (.between 1 2) fun _ id _ g => do
      let key := g.nth 0
      needKey key
      let h ← heap
      match lookUp h id key with
      | some x => return x
      | none => do
        setEntry id key (g.nth 1)
        return g.nth 1,
   dictMethod "clear" .none fun _ id _ _ => do
      write id (.dict [])
      return .null,
   dictMethod "update" (.free (some 1)) fun m id _ g => do
      match g.nth? 0 with
      | some v => updateFrom m id v
      | none => pure ()
      updateNamed id g.names
      return .null,
   dictMethod "__setitem__" (.slots 2 2) fun _ id _ g => do
      setEntry id (g.nth 0) (g.nth 1)
      return .null,
   dictMethod "__delitem__" (.slot 1) fun _ id entries g => do
      let key := g.nth 0
      needKey key
      let h ← heap
      match lookUp h id key with
      | some _ => do
        write id (.dict (entries.filter fun e => !sameValue h e.1 key))
        return .null
      | none => noKey key,
   dictMethod "__ior__" (.slot 1) fun m id _ g => do
      updateFrom m id (g.nth 0)
      return .dict id]

/-- Functions that tell something of a dictionary. -/
def dictQueries : Entries Feature :=
  let view (name sort : String) : String × Feature :=
    dictMethod name .none fun _ id _ _ => return .view sort id
  let join (flip : Bool) (_ : Machine) (_ : Nat) (entries : Row) (g : Given) : Run Value := do
    let h ← heap
    match g.nth 0 with
    | .dict other =>
      newDict (if flip then merged h (h.entries other) entries
        else merged h entries (h.entries other))
    | _ => return noOutcome
  [dictMethod "get" (.between 1 2) fun _ id _ g => do
      needKey (g.nth 0)
      let h ← heap
      return (lookUp h id (g.nth 0)).getD (g.nth 1),
   view "keys" "dict_keys", view "values" "dict_values", view "items" "dict_items",
   dictMethod "copy" .none fun _ _ entries _ => newDict entries,
   lengthFeature fun h self =>
      match self with
      | .dict id => (h.entries id).length
      | _ => 0,
   dictMethod "__contains__" .one fun _ id _ g => do
      needKey (g.nth 0)
      let h ← heap
      return .bool (lookUp h id (g.nth 0)).isSome,
   dictMethod "__getitem__" .one fun _ id _ g => do
      needKey (g.nth 0)
      let h ← heap
      match lookUp h id (g.nth 0) with
      | some x => return x
      | none => noKey (g.nth 0),
   dictMethod "__or__" (.slot 1) (join false), dictMethod "__ror__" (.slot 1) (join true),
   dictMethod "__reversed__" .none fun _ _ _ _ =>
      return .foreign "dict_reversekeyiterator" "<dict_reversekeyiterator object>",
   dictMethod "fromkeys" (.between 1 2) fun m _ _ g => do
      let keys ← m.items (g.nth 0)
      let _ ← Action.each needKey keys
      let h ← heap
      newDict (merged h [] (keys.map (·, g.nth 1)))]

/-- Features of dictionaries. -/
def dictFeatures : Entries Feature := dictChanges ++ dictQueries

/-- The names of the functions of dictionaries that only can be named. -/
def dictNames : List String := ["__class_getitem__", "__iter__"]

/-- Features of the views of dictionaries. -/
def viewFeatures : Entries Feature :=
  [("mapping", .property fun _ _ => return .foreign "mappingproxy" "mappingproxy"),
   lengthFeature fun h self =>
      match self with
      | .view _ id => (h.entries id).length
      | _ => 0,
   ("__contains__", .builtin (.slot 1) fun m self g => do
      let items ← m.items self
      let h ← heap
      return .bool (items.any (sameValue h (g.nth 0))))]

/-- The names of the functions of the views of dictionaries that only can be named. -/
def viewNames : List String := ["__iter__", "__reversed__", "isdisjoint"]

end PgSchema.Object
