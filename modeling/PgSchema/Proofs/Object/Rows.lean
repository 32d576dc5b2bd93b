import PgSchema.Proofs.Object.Columns

/-!
Rows that come back.

A connection reads a row by the names that the columns have in the database, and keeps the cells
under the names that they have in the code.  An insertion goes the way back: for the columns that
it writes it takes the attributes by the one name and states them by the other.  So what it binds
for the model of a row is the row's own cells, each at the place of its column (`row_comes_back`),
however the two sorts of names are mixed up with each other.
-/

namespace PgSchema.Object

open Query (Insertion)
open Session (callKnown machine)

/-! ### Models as objects -/

section Models

variable {c : Course State} {id : Nat} {className name : String} {x : Value}

/-- A class without properties has no members that are computed. -/
lemma isProperty_of_plain (title : String) {h : Heap} {cls : Class} {found : Found}
    (hown : ownMember? h name cls = match (features title).get? name with
      | some f => some (.feature title f)
      | none => if name ∈ bareNames title then some (.bare title) else none)
    (hplain : (features title).all fun e => !(Found.feature title e.2).isProperty)
    (hfound : ownMember? h name cls = some found) : found.isProperty = false := by
  rw [hown] at hfound
  cases hget : (features title).get? name with
  | some f =>
    rw [hget] at hfound
    obtain rfl := Option.some.inj hfound
    simpa using List.all_eq_true.1 hplain _ (Entries.mem_of_get? hget)
  | none =>
    rw [hget] at hfound
    dsimp only at hfound
    split at hfound
    · obtain rfl := Option.some.inj hfound
      rfl
    · cases hfound

/-- Models have nothing from their class that is computed. -/
lemma isProperty_of_model {h : Heap} {found : Found}
    (hfound : classMember? h (.model className) name = some found) : found.isProperty = false := by
  rw [classMember?, Class.lineage] at hfound
  obtain ⟨cls, hcls, hown⟩ := List.exists_of_findSome?_eq_some hfound
  rcases List.mem_pair.1 hcls with rfl | rfl
  · exact isProperty_of_plain "Model" rfl rfl hown
  · exact isProperty_of_plain "object" rfl rfl hown

/-- A model has its attributes, whatever they are called. -/
lemma member_model (hx : (c.work.heap.attributes id).get? name = some x) (m : Machine) :
    memberOf m (.object (.model className) id) name c = (.ok x, c) :=
  member_attribute Class.noConfusion (fun _ hfound => isProperty_of_model hfound) hx

end Models

/-! ### Rows that are read -/

namespace Link

variable {c d : Course State}

/-- A course that has moved to a site, with the others as they were left. -/
def moved (site : Site) (d : Course State) (sites : Array Site) (id : Nat) : Course State :=
  { d with toSite := { site with store := { site.store with events := d.store.events } }
           work := { d.work with sites, site := id } }

/-- **The way to a site and back**: what is on the heap comes along. -/
lemma exists_way (site : Nat) (c : Course State) :
    ∃ (there : Course State) (back : Course State → Course State),
      there.work.heap = c.work.heap ∧
        (∀ d, (back d).work.heap = d.work.heap ∧ ∀ h, back (d.withHeap h) = (back d).withHeap h) ∧
          ∀ {α : Type} (body : Run α),
            atSite site body c = ((body there).1, back (body there).2) := by
  by_cases hhere : c.work.site = site
  · refine ⟨c, id, rfl, fun _ => ⟨rfl, fun _ => rfl⟩, fun body => ?_⟩
    unfold atSite
    exact if_pos hhere
  · let left := c.work.sites.setIfInBounds c.work.site c.toSite
    let settled (d : Course State) := d.work.sites.setIfInBounds site d.toSite
    refine ⟨moved (left.getD site {}) c left site,
      fun d => moved ((settled d).getD c.work.site {}) d (settled d) c.work.site, rfl,
      fun _ => ⟨rfl, fun _ => rfl⟩, fun body => ?_⟩
    unfold atSite
    exact if_neg hhere

/-- What leaves the course of a site as it is comes first there. -/
lemma atSite_bind {α β : Type} {x : Run α} {a : α} (site : Nat) (f : α → Run β)
    (hx : ∀ e, e.work.heap = c.work.heap → x e = (.ok a, e)) :
    atSite site (x >>= f) c = atSite site (f a) c := by
  obtain ⟨there, back, hthere, -, hway⟩ := exists_way site c
  rw [hway, hway, Action.bind_apply_ok (hx there hthere)]

/-- A new object that is made at a site. -/
lemma atSite_newObject {α : Type} {body : Run α} {a : α} {site : Nat} (cls : α → Class)
    (attributes : Entries Value) (h : atSite site body c = (.ok a, d)) :
    atSite site (body >>= fun a => newObject (cls a) attributes) c =
      (.ok (.object (cls a) d.work.heap.size),
        d.withHeap (d.work.heap.push (.attributes attributes))) := by
  obtain ⟨there, back, -, hback, hway⟩ := exists_way site c
  rw [hway] at h
  obtain ⟨hresult, hd⟩ := Prod.mk.inj h
  have hbody : body there = (.ok a, (body there).2) := Prod.ext hresult rfl
  obtain ⟨hheap, hwith⟩ := hback (body there).2
  rw [hway, Action.bind_apply_ok hbody, newObject_apply]
  dsimp only
  rw [hwith, hd, ← hheap, hd]

variable {t : Table} {row : Value} {cells : Entries Value} {cls : Class} {id : Nat} {l : Link}
  {className : String}

/-- The attributes of a row's model. -/
def attributesOf (t : Table) (cells : Entries Value) : Entries Value :=
  Entries.collapse (t.columns.filterMap fun c => (cells.get? c.columnName).map (c.name, ·))

/-- **A row is read** as soon as the class of its models is found: nothing else can fail. -/
lemma callMethod_newModel (hl : l.Serves cls id "new_model_from_row" c.work.heap)
    (hrow : IsRow c.work.heap row cells)
    (hclass : atSite l.site (l.connection.modelClass t) c = (.ok className, d)) (n : Nat) :
    (machine (n + 1)).callMethod (.object cls id) "new_model_from_row" [.table t, row] c =
      (.ok (.object (.model className) d.work.heap.size),
        d.withHeap (d.work.heap.push (.attributes (attributesOf t cells)))) := by
  have hattributes : ∀ e : Course State, e.work.heap = c.work.heap →
      Connection.rowAttributes (cell? (machine n) row) t e =
        (.ok (attributesOf t cells), e) := fun e he =>
    rowAttributes_apply (fun name => IsRow.cell?_apply (he ▸ hrow) (machine n) name) t
  rw [callMethod_apply (hl.member rfl n), callKnown_newModel, use, Action.bind_apply_ok hl.of_apply,
    Connection.newModel, Action.bind_assoc, atSite_bind l.site _ hattributes, Action.bind_assoc]
  exact atSite_newObject (fun className => .model className) (attributesOf t cells) hclass

end Link

/-! ### Models that are inserted -/

namespace Prepared

/-- **What an insertion binds for the model of a row**: its statement names columns, and the values
that go over the connection with it are the row's cells of these columns, each at its place. -/
structure Binds (p : Prepared) (n : Nat) (className : String) (id : Nat) (columns : List String)
    (cells : Entries Value) (c : Course State) : Prop where
  named : (Insertion.read? p.inserter.text).map Insertion.columns = some columns
  bound : ∃ values : List Value, values.map some = columns.map cells.get? ∧
    (machine (n + 2)).callMethod p.value "values_of" [.object (.model className) id] c =
      newList values c ∧
    ∀ f d, (machine (n + 3)).member p.connection "insert" c = (.ok f, d) →
      p.Keeps d.work.heap → d.work.heap[id]? = c.work.heap[id]? →
      (machine (n + 4)).callMethod p.value "execute" [.object (.model className) id] c =
        (newList values >>= fun v =>
          (machine (n + 3)).call f [.text p.inserter.text, v] []) d

variable {p : Prepared} {c : Course State} {t : Table} {given : OnConflict} {skip : Bool}
  {k id : Nat} {cells : Entries Value} {className : String}

/-- The cell of a column. -/
def cellOf (cells : Entries Value) (c : Column) : Value := (cells.get? c.columnName).getD .null

/-- The values that go with the model of a row. -/
lemma values_attributesOf (hnames : (t.columns.map Column.name).Nodup)
    (hfull : ∀ c ∈ t.columns, (cells.get? c.columnName).isSome)
    (hid : c.work.heap[id]? = some (.attributes (Link.attributesOf t cells)))
    (hwritten : p.inserter.columns ⊆ t.columns) (n : Nat) :
    p.values (machine (n + 1)) (.object (.model className) id) c =
      (.ok (p.inserter.columns.map (cellOf cells)), c) := by
  refine Action.each_apply fun column hcolumn => ?_
  have hc := hwritten hcolumn
  refine member_model ?_ (machine n)
  obtain ⟨x, hx⟩ := Option.isSome_iff_exists.1 (hfull column hc)
  rw [Heap.attributes_of_instance hid, Link.attributesOf, get?_attributes cells.get? hnames hc,
    cellOf, hx]
  rfl

/-- **An insertion binds the cells of a row** for its model. -/
lemma binds_attributesOf (hp : Readied k t given skip p c)
    (hnames : (t.columns.map Column.name).Nodup)
    (hfull : ∀ c ∈ t.columns, (cells.get? c.columnName).isSome)
    (hid : c.work.heap[id]? = some (.attributes (Link.attributesOf t cells))) (n : Nat) :
    p.Binds n className id
      ((t.columns.filter fun c => skip || !c.autoId).map Column.columnName) cells c := by
  have hwritten : p.inserter.columns = t.columns.filter fun c => skip || !c.autoId := by
    obtain ⟨clause, -, hclause⟩ := Query.Inserter.exists_clause hp.prepare_eq
    rw [hclause]
    rfl
  have hsubset : p.inserter.columns ⊆ t.columns := by
    rw [hwritten]
    exact List.filter_sublist.subset
  have hvalues : ∀ d : Course State, d.work.heap[id]? = c.work.heap[id]? → ∀ m,
      p.values (machine (m + 1)) (.object (.model className) id) d =
        (.ok (p.inserter.columns.map (cellOf cells)), d) := fun d hd m =>
    values_attributesOf hnames hfull (hd.trans hid) hsubset m
  refine ⟨?_, p.inserter.columns.map (cellOf cells), ?_, ?_, fun f d hf hkeeps hd => ?_⟩
  · rw [Query.Inserter.read?_said hp.prepare_eq, ← hwritten]
    rfl
  · rw [← hwritten, List.map_map, List.map_map]
    refine List.map_congr_left fun column hcolumn => ?_
    obtain ⟨x, hx⟩ := Option.isSome_iff_exists.1 (hfull column (hsubset hcolumn))
    rw [Function.comp_apply, Function.comp_apply, cellOf, hx]
    rfl
  · rw [hp.keeps.values_apply n]
    exact Action.bind_apply_ok (hvalues c rfl n) _
  · have hlooked : ∀ f' d', (machine (n + 3)).member p.connection "insert" c = (.ok f', d') →
        p.Keeps d'.work.heap := fun f' d' hf' => by
      obtain rfl := congrArg Prod.snd (hf.symm.trans hf')
      exact hkeeps
    rw [execute_apply hp.keeps n _ hlooked, Action.bind_apply_ok hf]
    exact Action.bind_apply_ok (hvalues d hd (n + 1)) _

end Prepared

/-! ### There and back -/

/-- **A row comes back.**  From a row with a cell for each column a connection makes a model, as
soon as the class of the models is found.  Every insertion that is prepared for the table binds for
this model the row's own cells, in the order of the columns that it writes: all columns if numbers
are written too, and otherwise those whose numbers the database does not give by itself. -/
theorem row_comes_back {t : Table} (hnames : (t.columns.map Column.name).Nodup)
    {row : Value} {cells : Entries Value} {s d : Course State}
    (hrow : IsRow s.work.heap row cells)
    (hfull : ∀ c ∈ t.columns, (cells.get? c.columnName).isSome) {cls : Class} {id : Nat} {l : Link}
    (hl : l.Serves cls id "new_model_from_row" s.work.heap) {className : String}
    (hclass : atSite l.site (l.connection.modelClass t) s = (.ok className, d)) (n : Nat) :
    ∃ attributes, (machine (n + 1)).callMethod (.object cls id) "new_model_from_row"
        [.table t, row] s = (.ok (.object (.model className) d.work.heap.size),
          d.withHeap (d.work.heap.push (.attributes attributes))) ∧
      ∀ {k : Nat} {given : OnConflict} {skip : Bool} {p : Prepared} {e : Course State},
        Prepared.Readied k t given skip p e →
          e.work.heap[d.work.heap.size]? = some (.attributes attributes) →
            ∀ m, p.Binds m className d.work.heap.size
              ((t.columns.filter fun c => skip || !c.autoId).map Column.columnName) cells e :=
  ⟨_, Link.callMethod_newModel hl hrow hclass n, fun hp hid =>
    Prepared.binds_attributesOf hp hnames hfull hid⟩

namespace Board

/-- A row of scores with more in it than the bounds. -/
def cells : Entries Value := [("low", .int 1), ("unit", .text "points"), ("high", .int 2)]

/-- A connection to the scores with bounds. -/
def line : Link where
  site := 0
  connection :=
    { tables := [bounded], hash := .null, migrator := .error (.noModel ""), ownsWorkers := false
      modules := [] }
  schemas := .null
  hash := .null
  migrator := .null
  workers := none

/-- A course in which the class of the scores is known, with the connection and the row. -/
def shelf : Course State :=
  { start with
    models := [("board", "Board")]
    work := { start.work with
      heap := #[.link line, .dict (cells.map fun cell => (.text cell.1, cell.2))] } }

end Board

open Board in
/-- **Bounds that are called in the code as the other one is called in the database** come back to
their own places. -/
theorem row_comes_back_bounded : (bounded.columns.map Column.name).Nodup ∧
    IsRow shelf.work.heap (.dict 1) cells ∧
    (∀ c ∈ bounded.columns, (cells.get? c.columnName).isSome) ∧
    line.Serves Link.cls 0 "new_model_from_row" shelf.work.heap ∧
    atSite line.site (line.connection.modelClass bounded) shelf = (.ok "Board", shelf) ∧
    ∃ d p e, (machine 1).callMethod (.object Link.cls 0) "new_model_from_row"
        [.table bounded, .dict 1] shelf = (.ok (.object (.model "Board") 2), d) ∧
      Prepared.Readied 0 bounded .none true p e ∧
      (Insertion.read? p.inserter.text).map Insertion.columns = some ["high", "low"] ∧
      (machine 2).callMethod p.value "values_of" [.object (.model "Board") 2] e =
        newList [.int 2, .int 1] e := by
  have hnames : (bounded.columns.map Column.name).Nodup := by decide
  have hrow : IsRow shelf.work.heap (.dict 1) cells := ⟨1, rfl, rfl⟩
  have hfull : ∀ c ∈ bounded.columns, (cells.get? c.columnName).isSome := by decide
  have hline : line.Serves Link.cls 0 "new_model_from_row" shelf.work.heap :=
    ⟨.library, fun _ hid => absurd hid List.not_mem_nil, rfl, rfl⟩
  have hclass : atSite line.site (line.connection.modelClass bounded) shelf =
      (.ok "Board", shelf) := rfl
  obtain ⟨attributes, hread, hbinds⟩ := row_comes_back hnames hrow hfull hline hclass 0
  have hcls : (Class.known "Inserter").Prepares (shelf.work.heap.push (.attributes attributes)) :=
    ⟨.library, fun _ hid => absurd hid List.not_mem_nil, fun _ _ _ hid => absurd hid
      List.not_mem_nil⟩
  have hi : Query.Inserter.prepare bounded .none true =
      .ok (Query.Inserter.withClause bounded .none true "") := rfl
  let d := shelf.withHeap (shelf.work.heap.push (.attributes attributes))
  have hp := Prepared.Readied.made (c := d) hcls hi (Prepared.call_inserter hcls hi 0 .null)
  have hlt : shelf.work.heap.size < d.work.heap.size := by
    rw [heap_withHeap, Array.size_push]
    exact Nat.lt_succ_self _
  obtain ⟨hnamed, values, hvalues, hbound, -⟩ :=
    hbinds hp ((Heap.getElem?_grown_old _ _ _ hlt).trans Array.getElem?_push_size) 0
  obtain rfl : values = [.int 2, .int 1] :=
    List.map_injective_iff.2 (fun _ _ => Option.some.inj) hvalues
  exact ⟨hnames, hrow, hfull, hline, hclass, d, _, _, hread, hp, hnamed, hbound⟩

end PgSchema.Object
