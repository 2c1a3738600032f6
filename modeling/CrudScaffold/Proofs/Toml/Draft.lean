import CrudScaffold.Toml.Node
import CrudScaffold.Toml.Sheet

/-!
# Documents that grow at their end

Where every table behind the first is the next item of a list, a document grows at its end: the table
that is being read is found by going down from last item to last item. What stands in front of that way
is not touched again, so the tables that are read stay apart.
-/

namespace CrudScaffold.Toml

variable {es es' front : Entries} {done : List Entries} {key : String} {v : Value}

/-! ## Finished values as nodes -/

namespace Node

mutual
/-- A finished value in a tree under construction. -/
def ofValue : Value → Node
  | .tables items => .tables (ofItems items)
  | v => .leaf v

/-- A finished table in a tree under construction. -/
def ofEntries : Entries → List (String × Node)
  | [] => []
  | (k, v) :: rest => (k, ofValue v) :: ofEntries rest

/-- A finished list of tables in a tree under construction. -/
def ofItems : List Entries → List (List (String × Node))
  | [] => []
  | t :: rest => ofEntries t :: ofItems rest
end

mutual
private theorem toValue_ofValue : ∀ v : Value, (ofValue v).toValue = v
  | .tables items => by rw [ofValue, toValue, itemsToValues_ofItems items]
  | .string _ | .integer _ | .float _ | .boolean _ | .datetime _ | .array _ | .table _ => by
    rw [ofValue, toValue]
    nofun

/-- A finished table stays what it is. -/
theorem entriesToValues_ofEntries : ∀ es : Entries, entriesToValues (ofEntries es) = es
  | [] => rfl
  | (k, v) :: rest => by
    rw [ofEntries, entriesToValues, toValue_ofValue v, entriesToValues_ofEntries rest]

private theorem itemsToValues_ofItems : ∀ items : List Entries, itemsToValues (ofItems items) = items
  | [] => rfl
  | t :: rest => by
    rw [ofItems, itemsToValues, entriesToValues_ofEntries t, itemsToValues_ofItems rest]
end

private theorem ofEntries_append (es es' : Entries) :
    ofEntries (es ++ es') = ofEntries es ++ ofEntries es' := by
  induction es with
  | nil => rfl
  | cons e es ih => rw [List.cons_append, ofEntries, ofEntries, ih, List.cons_append]

private theorem ofItems_append_singleton (items : List Entries) (t : Entries) :
    ofItems (items ++ [t]) = ofItems items ++ [ofEntries t] := by
  induction items with
  | nil => rfl
  | cons item items ih => rw [List.cons_append, ofItems, ofItems, ih, List.cons_append]

private theorem lookup_ofEntries (es : Entries) (key : String) :
    (ofEntries es).lookup key = (es.lookup key).map ofValue := by
  induction es with
  | nil => rfl
  | cons e es ih =>
    rw [ofEntries, List.lookup_cons, List.lookup_cons, ih]
    split <;> rfl

/-! ### A key behind all others -/

private theorem lookup_eq_none_of_not_mem (h : key ∉ es.map Prod.fst) : es.lookup key = none := by
  rw [List.lookup_eq_none_iff]
  intro e he
  have hne : key ≠ e.1 := fun hkey => h (hkey ▸ List.mem_map_of_mem he)
  simpa using hne

/-- A new key is found behind the others. -/
theorem lookup_append_of_not_mem (h : key ∉ front.map Prod.fst) :
    (ofEntries (front ++ [(key, v)])).lookup key = some (ofValue v) := by
  rw [lookup_ofEntries, List.lookup_append, lookup_eq_none_of_not_mem h, List.lookup_cons,
    beq_self_eq_true]
  rfl

/-- Behind the others the node of a new key is replaced. -/
theorem setKey_append_of_not_mem (h : key ∉ front.map Prod.fst) (v' : Value) :
    setKey key (ofValue v') (ofEntries (front ++ [(key, v)])) = ofEntries (front ++ [(key, v')]) := by
  induction front with
  | nil => simp [ofEntries, setKey]
  | cons e front ih =>
    rw [List.map_cons, List.mem_cons, not_or] at h
    rw [List.cons_append, List.cons_append, ofEntries, ofEntries, setKey, if_neg (Ne.symm h.1),
      ih h.2]

end Node

/-! ## The way to the last table -/

open Node

/-- A step from a table to the last item of its last list: what stands in front of the list, its key,
and the items in front of the last one. -/
structure Frame where
  front : Entries
  key : String
  done : List Entries
  fresh : key ∉ front.map Prod.fst

/-- The table in which such a way leads to a table. -/
def plug : List Frame → Entries → Entries
  | [], es => es
  | f :: frames, es => f.front ++ [(f.key, .tables (f.done ++ [plug frames es]))]

/-- The innermost frame is filled first. -/
theorem plug_append_singleton (frames : List Frame) (f : Frame) (es : Entries) :
    plug (frames ++ [f]) es = plug frames (f.front ++ [(f.key, .tables (f.done ++ [es]))]) := by
  induction frames with
  | nil => rfl
  | cons f' frames ih => rw [List.cons_append, plug, plug, ih]

/-- What changes the last table changes nothing else. -/
theorem alter_plug {change : Bool → List (String × Node) → Option (List (String × Node))}
    (h : change false (ofEntries es) = some (ofEntries es')) (frames : List Frame) :
    alter false change (frames.map Frame.key) false (ofEntries (plug frames es)) =
      some (ofEntries (plug frames es')) := by
  induction frames with
  | nil => exact h
  | cons f frames ih =>
    -- The frame is entered at the last item of its list and put back around what came out.
    rw [plug, List.map_cons, alter, lookup_append_of_not_mem f.fresh]
    simp only [ofValue, ofItems_append_singleton, List.getLast?_concat, List.dropLast_concat, ih,
      Option.bind_eq_bind, Option.bind_some]
    rw [← ofItems_append_singleton]
    exact congrArg some (setKey_append_of_not_mem f.fresh (.tables (f.done ++ [plug frames es'])))

/-- The way leads to the last table. -/
theorem find_plug (frames : List Frame) (es : Entries) :
    Draft.entriesAt.find (frames.map Frame.key) (ofEntries (plug frames es)) = some (ofEntries es) := by
  induction frames with
  | nil => rfl
  | cons f frames ih =>
    rw [plug, List.map_cons, Draft.entriesAt.find, lookup_append_of_not_mem f.fresh]
    simp only [ofValue, ofItems_append_singleton, List.getLast?_concat, Option.bind_some, ih]

private theorem entriesAt_plug (frames : List Frame) (es : Entries) :
    Draft.entriesAt (frames.map Frame.key) (ofEntries (plug frames es)) =
      some (ofEntries (plug frames es), ofEntries es) := by
  rw [Draft.entriesAt, alter_plug rfl]
  simp [find_plug]

/-! ## Growing -/

namespace Draft

variable {d : Draft} {frames : List Frame} {f : Frame}

/-- So far the document is this one, with the current table in it. -/
def Settles (d : Draft) (es : Entries) : Prop := d.settle = some (ofEntries es)

/-- The current table is at the end of the way, whatever it will hold. -/
def StandsAt (d : Draft) (frames : List Frame) : Prop :=
  ∀ es, Settles { d with current := ofEntries es } (plug frames es)

/-- An empty draft stands at the top. -/
theorem standsAt_empty : empty.StandsAt [] := fun _ => rfl

/-- A new key takes its value behind the others. -/
theorem add_pair (hd : d.current = ofEntries es) (hkey : key ∉ es.map Prod.fst)
    (hleaf : ofValue v = .leaf v) :
    d.add (.pair [] key v) = some { d with current := ofEntries (es ++ [(key, v)]) } := by
  have hlookup : (ofEntries es).lookup key = none := by
    rw [lookup_ofEntries, lookup_eq_none_of_not_mem hkey]
    rfl
  simp [add, addPair, alter, hd, hlookup, ofEntries_append, ofEntries, hleaf]

/-- An item was just opened. -/
def item (frames : List Frame) (f : Frame) : Draft :=
  ⟨ofEntries (plug frames (f.front ++ [(f.key, .tables f.done)])), [],
    some (frames.map Frame.key, f.key), true⟩

/-- A draft stands at the item that was opened last. -/
theorem standsAt_item (frames : List Frame) (f : Frame) :
    (item frames f).StandsAt (frames ++ [f]) := by
  intro es
  rw [Settles, plug_append_singleton]
  refine alter_plug ?_ frames
  simp only [item, ↓reduceIte, lookup_append_of_not_mem f.fresh, ofValue, ← ofItems_append_singleton]
  exact congrArg some (setKey_append_of_not_mem f.fresh (.tables (f.done ++ [es])))

/-- The header of an item opens it behind the items that are there, or begins their list. -/
theorem add_itemHeader (h : d.Settles (plug frames (f.front ++ tablesUnder f.key f.done))) :
    d.add (.itemHeader (frames.map Frame.key) f.key) = some (item frames f) := by
  rw [Settles] at h
  simp only [add, h, Option.bind_eq_bind, Option.bind_some, entriesAt_plug]
  cases hdone : f.done with
  | nil =>
    -- There is no list under the key yet, and the header opens an empty one.
    have hlookup : (ofEntries (f.front ++ tablesUnder f.key [])).lookup f.key = none := by
      rw [tablesUnder, List.append_nil, lookup_ofEntries, lookup_eq_none_of_not_mem f.fresh]
      rfl
    have hbegin : Node.alter false (fun _ entries => some (entries ++ [(f.key, .tables [])]))
        (frames.map Frame.key) false (ofEntries (plug frames (f.front ++ tablesUnder f.key []))) =
        some (ofEntries (plug frames (f.front ++ [(f.key, .tables [])]))) :=
      alter_plug (by simp [tablesUnder, ofEntries_append, ofEntries, ofValue, ofItems]) frames
    simp only [hlookup, hbegin, Option.bind_some, item, hdone]
  | cons t rest =>
    simp only [tablesUnder, lookup_append_of_not_mem f.fresh, ofValue, item, hdone]

end Draft

end CrudScaffold.Toml
