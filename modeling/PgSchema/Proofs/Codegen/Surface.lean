import PgSchema.Codegen.Access
import PgSchema.Proofs.Codegen.ConditionNames
import PgSchema.Proofs.Schema.Built

/-!
The methods of a handle.

A database is accepted if and only if no two of its tables have the same name, and no two of their
models the same name in snake case (`ofTables_eq_ok_iff`).  The methods of a table are named after
its model in snake case, each with a beginning of its own, and no beginning is that of another
method.  So all methods of the handle of an accepted database have names of their own, and the
methods of a table name nothing but what belongs to it (`methods_apart`).
-/

namespace PgSchema

/-! ### Databases that are accepted -/

namespace Checked

lemma bind_eq_ok {α β : Type} {x : Checked α} {f : α → Checked β} {b : β} :
    x.bind f = .ok b ↔ ∃ a, x = .ok a ∧ f a = .ok b := by
  cases x <;> simp [bind]

end Checked

/-- Two tables can be in one database. -/
def Table.Apart (s t : Table) : Prop := s.name ≠ t.name ∧ s.snakeName ≠ t.snakeName

lemma pairwise_apart {tables : List Table} : tables.Pairwise Table.Apart ↔
    (tables.map Table.name).Nodup ∧ (tables.map Table.snakeName).Nodup := by
  unfold List.Nodup
  rw [List.pairwise_map, List.pairwise_map, ← List.pairwise_and_iff]
  rfl

namespace Database

/-- Tables stand behind others without a clash if all of them are apart. -/
lemma clash?_eq_none_iff (before tables : List Table) : clash? before tables = none ↔
    (∀ s ∈ before, ∀ t ∈ tables, s.Apart t) ∧ tables.Pairwise Table.Apart := by
  induction tables generalizing before with
  | nil => simp [clash?]
  | cons t rest ih =>
    have hname : before.any (·.name = t.name) = true ↔ ∃ s ∈ before, s.name = t.name := by simp
    unfold clash?
    split
    case isTrue hany =>
      obtain ⟨s, hs, heq⟩ := hname.1 hany
      exact iff_of_false (Option.some_ne_none _)
        fun h => (h.1 s hs t List.mem_cons_self).1 heq
    case isFalse hany =>
      split
      case h_1 other hfound =>
        have heq : other.snakeName = t.snakeName := by simpa using List.find?_some hfound
        exact iff_of_false (Option.some_ne_none _)
          fun h => (h.1 other (List.mem_of_find?_eq_some hfound) t List.mem_cons_self).2 heq
      case h_2 hfound =>
        have hsnake : ∀ s ∈ before, s.snakeName ≠ t.snakeName := by
          simpa using List.find?_eq_none.1 hfound
        have happart : ∀ s ∈ before, s.Apart t := fun s hs =>
          ⟨fun heq => hany (hname.2 ⟨s, hs, heq⟩), hsnake s hs⟩
        rw [ih, List.forall_mem_append, List.forall_mem_singleton, List.pairwise_cons, and_assoc]
        refine and_congr_left fun _ => forall₂_congr fun s hs => ?_
        rw [List.forall_mem_cons]
        exact (and_iff_right (happart s hs)).symm

/-- The tables have names of their own, and their models have names of their own in snake case. -/
def NamesApart (d : Database) : Prop :=
  (d.tables.map Table.name).Nodup ∧ (d.tables.map Table.snakeName).Nodup

instance (d : Database) : Decidable d.NamesApart := inferInstanceAs (Decidable (_ ∧ _))

/-- The names are checked when everything else is there. -/
lemma bind_checkNames_eq_ok_iff {x : Checked Database} {d : Database} :
    x.bind checkNames = .ok d ↔ x = .ok d ∧ d.NamesApart := by
  have hclash : ∀ d : Database, clash? [] d.tables = none ↔ d.NamesApart := by
    intro d
    rw [clash?_eq_none_iff, pairwise_apart]
    simp [NamesApart]
  have hnames : ∀ d' : Database, checkNames d' = .ok d ↔ d' = d ∧ d'.NamesApart := by
    intro d'
    rw [← hclash, checkNames]
    cases clash? [] d'.tables <;> simp [Checked.complain]
  rw [Checked.bind_eq_ok]
  constructor
  · rintro ⟨d', hx, h⟩
    obtain ⟨rfl, hapart⟩ := (hnames d').1 h
    exact ⟨hx, hapart⟩
  · rintro ⟨hx, hapart⟩
    exact ⟨d, hx, (hnames d).2 ⟨rfl, hapart⟩⟩

/-- **Which tables make a database**: those with names of their own whose models have names of their
own in snake case. -/
lemma ofTables_eq_ok_iff {package className : Json} {tables : List Table} {d : Database} :
    ofTables package className tables = .ok d ↔
      Checked.filledText package = .ok d.package ∧ Checked.filledText className = .ok d.className ∧
        tables = d.tables ∧ d.NamesApart := by
  unfold ofTables
  rw [Checked.report_eq_ok, bind_checkNames_eq_ok_iff]
  simp only [Checked.map_eq_ok, Checked.ap_eq_ok, Checked.within_eq_ok]
  constructor
  · rintro ⟨⟨_, ⟨_, _, ⟨_, hpackage, rfl⟩, hname, rfl⟩, rfl⟩, hapart⟩
    exact ⟨hpackage, hname, rfl, hapart⟩
  · rintro ⟨hpackage, hname, rfl, hapart⟩
    exact ⟨⟨_, ⟨_, _, ⟨_, hpackage, rfl⟩, hname, rfl⟩, rfl⟩, hapart⟩

/-- The same of what is read from a value. -/
lemma ofJson_eq_ok_iff {value : Json} {d : Database} :
    ofJson value = .ok d ↔ ∃ fields, value = .object fields ∧
      Checked.field fields "package_name" none Checked.filledText = .ok d.package ∧
        Checked.field fields "class_name" none Checked.filledText = .ok d.className ∧
          Checked.field fields "tables" (some []) (Checked.list Table.check) = .ok d.tables ∧
            d.NamesApart := by
  have hfields : ∀ fields, ofFields fields = .ok d ↔
      Checked.field fields "package_name" none Checked.filledText = .ok d.package ∧
        Checked.field fields "class_name" none Checked.filledText = .ok d.className ∧
          Checked.field fields "tables" (some []) (Checked.list Table.check) = .ok d.tables ∧
            d.NamesApart := by
    intro fields
    unfold ofFields
    rw [bind_checkNames_eq_ok_iff]
    simp only [Checked.map_eq_ok, Checked.ap_eq_ok]
    constructor
    · rintro ⟨⟨_, _, ⟨_, _, ⟨_, hpackage, rfl⟩, hname, rfl⟩, htables, rfl⟩, hapart⟩
      exact ⟨hpackage, hname, htables, hapart⟩
    · rintro ⟨hpackage, hname, htables, hapart⟩
      exact ⟨⟨_, _, ⟨_, _, ⟨_, hpackage, rfl⟩, hname, rfl⟩, htables, rfl⟩, hapart⟩
  unfold ofJson
  rw [Checked.report_eq_ok]
  cases value with
  | object fields => simp [hfields]
  | _ => simp [Checked.complain]

/-- The database was put together from its tables, or read from a value. -/
def IsAccepted (d : Database) : Prop :=
  (∃ package className tables, ofTables package className tables = .ok d) ∨
    ∃ value, ofJson value = .ok d

lemma IsAccepted.namesApart {d : Database} (h : d.IsAccepted) : d.NamesApart := by
  obtain ⟨package, className, tables, h⟩ | ⟨value, h⟩ := h
  · exact (ofTables_eq_ok_iff.1 h).2.2.2
  · obtain ⟨fields, -, -, -, -, hapart⟩ := ofJson_eq_ok_iff.1 h
    exact hapart

end Database

namespace Codegen

/-! ### The names of methods -/

/-- What stands before and behind the name of a model in the names of methods. -/
def tableMethods : List (String × String) :=
  [("load_", "_from_row"), ("create_", ""), ("relation_of_", ""), ("select_from_", ""),
   ("update_", ""), ("delete_from_", ""), ("insert_into_", ""), ("prepare_insert_into_", "")]

/-- The names of the methods of a database as a whole. -/
def databaseMethods : List String :=
  ["connect", "get_schemas", "get_connection", "migrate", "close", "transaction_sync",
   "transaction_async", "transaction_non_exclusive_sync", "transaction_non_exclusive_async"]

/-- The names of the methods of a table. -/
def methodNames (t : Table) : List String :=
  tableMethods.map fun p => p.1 ++ t.snakeName ++ p.2

lemma names_tableOperations (t : Table) : (tableOperations t).map (·.name) = methodNames t := by
  unfold tableOperations methodNames tableMethods prepareName
  -- with the name in snake case spelled out, the texts are compared by computing it
  generalize t.snakeName = name
  simp only [List.map_cons, List.map_nil, String.append_empty]

lemma names_databaseOperations (d : Database) :
    (databaseOperations d).map (·.name) = databaseMethods := by
  unfold databaseOperations transactionForwards databaseMethods
  simp only [List.map_cons, List.map_nil, List.cons_append, List.nil_append]

/-- No method begins like another one. -/
lemma eq_of_begins : ∀ p ∈ tableMethods, ∀ q ∈ tableMethods,
    p.1.toList <+: q.1.toList → p = q := by
  decide

lemma not_prefix_databaseMethods : ∀ p ∈ tableMethods, ∀ name ∈ databaseMethods,
    ¬ p.1.toList <+: name.toList := by
  decide

lemma prefix_method_name (p : String × String) (model : String) :
    p.1.toList <+: (p.1 ++ model ++ p.2).toList := by
  rw [String.append_assoc, String.toList_append]
  exact List.prefix_append _ _

/-- **The name of a method tells the model and what is done**. -/
lemma method_name_inj {p q : String × String} (hp : p ∈ tableMethods) (hq : q ∈ tableMethods)
    {m n : String} (h : p.1 ++ m ++ p.2 = q.1 ++ n ++ q.2) : p = q ∧ m = n := by
  have hbegin := prefix_method_name p m
  rw [h] at hbegin
  obtain rfl : p = q := (List.prefix_or_prefix_of_prefix hbegin (prefix_method_name q n)).elim
    (eq_of_begins p hp q hq) fun h => (eq_of_begins q hq p hp h).symm
  exact ⟨rfl, (String.append_right_inj _).1 ((String.append_left_inj _).1 h)⟩

/-- The names of all methods, table by table. -/
lemma names_accessOperations (d : Database) :
    (accessOperations d).map (·.name) = d.tables.flatMap methodNames ++ databaseMethods := by
  rw [accessOperations, List.map_append, List.map_flatMap, names_databaseOperations]
  exact congrArg (· ++ databaseMethods)
    (congrArg (d.tables.flatMap ·) (funext names_tableOperations))

/-- The methods of tables whose models have names of their own. -/
lemma nodup_methodNames {tables : List Table} (h : (tables.map Table.snakeName).Nodup) :
    (tables.flatMap methodNames ++ databaseMethods).Nodup := by
  refine List.nodup_append.2 ⟨List.nodup_flatMap.2 ⟨fun t _ => ?_, ?_⟩, by decide, ?_⟩
  · refine (List.nodup_map_iff_inj_on (by decide)).2 fun p hp q hq heq => ?_
    exact (method_name_inj hp hq heq).1
  · refine (List.pairwise_map.1 h).imp fun {s t} hne name hs ht => hne ?_
    obtain ⟨p, hp, rfl⟩ := List.mem_map.1 hs
    obtain ⟨q, hq, heq⟩ := List.mem_map.1 ht
    exact (method_name_inj hp hq heq.symm).2
  · rintro name hmem other hother rfl
    obtain ⟨t, -, hname⟩ := List.mem_flatMap.1 hmem
    obtain ⟨p, hp, rfl⟩ := List.mem_map.1 hname
    exact not_prefix_databaseMethods p hp _ hother (prefix_method_name p t.snakeName)

/-! ### What methods name -/

/-- The constants, classes and methods of the module that a statement names. -/
def Statement.mentions : Statement → List String
  | load schema | create schema => [schema]
  | derive builder schema | prepare builder schema => [builder, schema]
  | insert method | forward method => [method]
  | schemas => ["SCHEMAS"]
  | connect => ["DatabaseConnection", "SCHEMAS", "SCHEMA_HASH", "MODELS"]
  | condition .. | membership .. | connection | migrate | close | verbatim _ => []

/-- What belongs to a table: its constant, its builder classes, and its method for insertions. -/
def tableNames (t : Table) : List String :=
  [schemaConstant t, t.relationName, t.selectorName, t.updaterName, t.deleterName, t.inserterName,
   prepareName t]

/-- The methods of a table name nothing but what belongs to it. -/
lemma mentions_subset {t : Table} {op : Operation} (h : op ∈ tableOperations t) :
    op.body.flatMap Statement.mentions ⊆ tableNames t := by
  simp only [tableOperations, List.mem_cons, List.not_mem_nil, or_false] at h
  rcases h with rfl | rfl | rfl | rfl | rfl | rfl | rfl | rfl <;>
    simp [Statement.mentions, tableNames]

/-- **The methods of a handle do not collide**.  Tables are accepted if and only if their names, and
the names of their models in snake case, are all different.  Then the handle has eight methods for
each table, in the order of the tables, and nine more, all with names of their own, so that each of
them is what is found under its name; and the methods of a table name nothing but its own. -/
theorem methods_apart (d : Database) :
    (∀ package className tables, Database.ofTables package className tables = .ok d ↔
      Checked.filledText package = .ok d.package ∧ Checked.filledText className = .ok d.className ∧
        tables = d.tables ∧ d.NamesApart) ∧
    (∀ value, Database.ofJson value = .ok d ↔ ∃ fields, value = .object fields ∧
      Checked.field fields "package_name" none Checked.filledText = .ok d.package ∧
        Checked.field fields "class_name" none Checked.filledText = .ok d.className ∧
          Checked.field fields "tables" (some []) (Checked.list Table.check) = .ok d.tables ∧
            d.NamesApart) ∧
    (d.IsAccepted →
      (accessOperations d).map (·.name) = d.tables.flatMap methodNames ++ databaseMethods ∧
        ((accessOperations d).map (·.name)).Nodup ∧
          (∀ op ∈ accessOperations d,
            (methodsByName (accessOperations d)).get? op.name = some op) ∧
            ∀ t ∈ d.tables, ∀ op ∈ tableOperations t,
              op.body.flatMap Statement.mentions ⊆ tableNames t) := by
  refine ⟨fun _ _ _ => Database.ofTables_eq_ok_iff, fun _ => Database.ofJson_eq_ok_iff,
    fun haccepted => ?_⟩
  have hnodup : ((accessOperations d).map (·.name)).Nodup := by
    rw [names_accessOperations]
    exact nodup_methodNames haccepted.namesApart.2
  exact ⟨names_accessOperations d, hnodup, fun op => get?_methodsByName hnodup,
    fun t _ op => mentions_subset⟩

/-- Two tables whose models are called like methods of each other. -/
def twistedDatabase : Database where
  package := "p"
  className := "D"
  tables := ["Load", "SelectFromLoad"].map fun model => Table.ofColumns model model []

/-- The methods of tables whose models are called like methods. -/
theorem methods_apart_twisted : twistedDatabase.IsAccepted ∧
    ((accessOperations twistedDatabase).map (·.name)).Nodup := by
  have haccepted : twistedDatabase.IsAccepted :=
    .inl ⟨.text "p", .text "D", _, ((methods_apart twistedDatabase).1 _ _ _).2
      ⟨rfl, rfl, rfl, by decide⟩⟩
  exact ⟨haccepted, ((methods_apart twistedDatabase).2.2 haccepted).2.1⟩

end Codegen

end PgSchema
