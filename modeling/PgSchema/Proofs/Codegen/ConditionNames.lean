import Mathlib.Data.List.Infix
import Mathlib.Data.List.Nodup
import PgSchema.Object.Library
import PgSchema.Proofs.Codegen.Tests
import PgSchema.Proofs.Entries
import PgSchema.Proofs.Object.Builders

/-!
The names of conditions.

A condition is called by its column and what it asks.  What is asked can be read off the end of the
name, but for two endings that are ends of others: `_eq` and `_in` are what `_not_eq` and `_not_in`
end with.  So two conditions of a table have one name only if a column is called by another one with
`_not` behind it, and then they do have it (`conditions_apart_iff`).  No condition has the name of
anything that the builders of the library have.
-/

namespace PgSchema.Codegen

open Object (classMember? commonMember? ownNames)

/-! ### What is asked of a column -/

/-- The column can be compared with values: rows are selected by it, and it is no key, which is only
looked up. -/
def IsCompared (c : Column) : Prop := c.hasConditions = true ∧ c.primaryKey = false

/-- What is asked of columns that are compared. -/
def comparedKinds : List OperationKind := OperationKind.conditions.erase .find

/-- The end of the name of a condition. -/
def ending (kind : OperationKind) : List Char := ("_" ++ kind.text).toList

/-- An ending is the end of another one in two cases: with `_not` in front it is the other one. -/
lemma ending_suffix : ∀ k ∈ comparedKinds, ∀ l ∈ comparedKinds, ending k <:+ ending l →
    k = l ∨ "_" ++ l.text = "_not" ++ ("_" ++ k.text) := by
  decide

section Column

variable {target : String} {c d : Column} {op : Operation}

/-- A column is asked for everything once. -/
lemma nodup_kinds (target : String) (c : Column) :
    ((columnConditions target c).map (·.kind)).Nodup := by
  have hkinds : ∀ nullable numeric : Bool,
      ((if nullable then [OperationKind.isNull, .isNotNull] else []) ++
        [OperationKind.eq, .notEq, .member, .notMember] ++
        (if numeric then Comparison.ordering.map Comparison.kind else [])).Nodup := by
    decide
  unfold columnConditions
  split
  · exact List.nodup_singleton _
  · convert hkinds c.nullable c.kind.isNumeric using 1
    cases c.nullable <;> cases c.kind.isNumeric <;> rfl

/-- A condition of a column that is no key is called by the column and what is asked. -/
lemma named_of_mem (hc : c.primaryKey = false) (hop : op ∈ columnConditions target c) :
    op.kind ∈ comparedKinds ∧ op.name = c.name ++ ("_" ++ op.kind.text) := by
  obtain ⟨⟨test, hmakes⟩, hfind⟩ := makes_of_mem hop
  have hne : op.kind ≠ .find := fun h => Bool.false_ne_true (hc.symm.trans (hfind.1 h))
  rcases hmakes.named with ⟨hkind, hname⟩ | ⟨hkind, -⟩
  · refine ⟨?_, by rw [hname, hkind, String.append_assoc]⟩
    rw [hkind] at hne ⊢
    exact (List.mem_erase_of_ne hne).2 test.kind_mem
  · exact absurd hkind hne

/-- A key is looked up under a name of its own. -/
lemma eq_findBy_of_mem (hc : c.primaryKey = true) (hop : op ∈ columnConditions target c) :
    op = findBy target c := by
  rw [columnConditions, if_pos hc] at hop
  exact List.mem_singleton.1 hop

/-- A column that is no key is compared for equality, and for the lack of it. -/
lemma comparison_mem (hc : c.primaryKey = false) {k : Comparison} (hk : k = .eq ∨ k = .notEq) :
    comparison target c k ∈ columnConditions target c := by
  rw [columnConditions, if_neg (by rw [hc]; exact Bool.false_ne_true)]
  rcases hk with rfl | rfl <;> simp

lemma suffix_of_mem (hc : c.primaryKey = false) (hop : op ∈ columnConditions target c) :
    ending op.kind <:+ op.name.toList := by
  rw [(named_of_mem hc hop).2, String.toList_append]
  exact List.suffix_append _ _

/-- One column is called by another with `_not` behind it. -/
def Negates (c d : Column) : Prop := c.name = d.name ++ "_not"

/-- **Conditions of one name**, of columns that are no keys: the columns have one name, and the same
is asked of them, or one is called by the other with `_not` behind it. -/
lemma eq_of_name_eq {op' : Operation} (hc : c.primaryKey = false) (hd : d.primaryKey = false)
    (hop : op ∈ columnConditions target c) (hop' : op' ∈ columnConditions target d)
    (hname : op.name = op'.name) :
    c.name = d.name ∧ op.kind = op'.kind ∨ Negates c d ∨ Negates d c := by
  have hshorter : ∀ {c d : Column} {op op' : Operation}, c.primaryKey = false →
      d.primaryKey = false → op ∈ columnConditions target c → op' ∈ columnConditions target d →
      op.name = op'.name → ending op.kind <:+ ending op'.kind →
      c.name = d.name ∧ op.kind = op'.kind ∨ Negates c d := by
    intro c d op op' hc hd hop hop' hname hsuffix
    obtain ⟨hkind, hop⟩ := named_of_mem hc hop
    obtain ⟨hkind', hop'⟩ := named_of_mem hd hop'
    rw [hop, hop'] at hname
    rcases ending_suffix _ hkind _ hkind' hsuffix with heq | heq
    · rw [heq] at hname
      exact .inl ⟨(String.append_left_inj _).1 hname, heq⟩
    · rw [heq] at hname
      exact .inr ((String.append_left_inj _).1 (hname.trans String.append_assoc.symm))
  have hsuffix := suffix_of_mem hd hop'
  rw [← hname] at hsuffix
  rcases List.suffix_or_suffix_of_suffix (suffix_of_mem hc hop) hsuffix with h | h
  · exact (hshorter hc hd hop hop' hname h).imp_right .inl
  · rcases hshorter hd hc hop' hop hname.symm h with ⟨hcolumn, hkind⟩ | hnot
    · exact .inl ⟨hcolumn.symm, hkind.symm⟩
    · exact .inr (.inr hnot)

end Column

/-! ### What builders have already -/

/-- The name is that of something that builders of the library have: a member of one of their
classes, an attribute that they are given, or what every value can tell of itself. -/
def IsBuilderName (name : String) : Prop :=
  (∃ title ∈ ["QueryBuilder", "Selector", "Updater", "Deleter", "Relation"], ∃ h,
    (classMember? h (.known title) name).isSome) ∨ name ∈ ownNames ∨
    ∃ h v, (commonMember? h v name).isSome

/-- The names of all that the classes of builders have. -/
def builderNames : List String :=
  ["QueryBuilder", "Selector", "Updater", "Deleter", "Relation", "object"].flatMap fun title =>
    (Object.features title).keys ++ Object.bareNames title

/-- What every value can tell of itself. -/
def commonNames : List String :=
  ["__class__", "__dict__", "__module__", "__name__", "__qualname__", "__doc__", "__call__",
   "__self__", "__func__"]

lemma classMember?_eq_none {name : String} (hname : name ∉ builderNames) (h : Object.Heap) :
    ∀ title ∈ ["QueryBuilder", "Selector", "Updater", "Deleter", "Relation"],
      classMember? h (.known title) name = none := by
  have hown : ∀ title ∈ ["QueryBuilder", "Selector", "Updater", "Deleter", "Relation", "object"],
      Object.ownMember? h name (.known title) = none := by
    intro title htitle
    have hnot : name ∉ (Object.features title).keys ++ Object.bareNames title :=
      fun hmem => hname (List.mem_flatMap.2 ⟨title, htitle, hmem⟩)
    rw [List.mem_append, not_or] at hnot
    have hnone : (Object.features title).get? name = none := Entries.get?_eq_none_iff.2 hnot.1
    have htitle : (Object.Class.known title).title = title := rfl
    simp only [Object.ownMember?, htitle, hnone, if_neg hnot.2]
  intro title htitle
  refine List.findSome?_eq_none_iff.2 fun cls hcls => ?_
  have hlineage : ∀ title ∈ ["QueryBuilder", "Selector", "Updater", "Deleter", "Relation"],
      ∀ cls ∈ Object.Class.lineage (.known title), ∃ other ∈ ["QueryBuilder", "Selector",
        "Updater", "Deleter", "Relation", "object"], cls = .known other := by
    decide
  obtain ⟨other, hother, rfl⟩ := hlineage title htitle cls hcls
  exact hown other hother

lemma commonMember?_eq_none {name : String} (hname : name ∉ commonNames) (h : Object.Heap)
    (v : Object.Value) : commonMember? h v name = none := by
  unfold commonMember?
  split <;> first | rfl | exact absurd (by decide) hname

/-- No name that is taken ends as those of conditions do, or is that of the look-up. -/
lemma ending_of_taken : ∀ kind ∈ comparedKinds, ∀ name ∈ builderNames ++ ownNames ++ commonNames,
    ¬ ending kind <:+ name.toList ∧ name ≠ "find" := by
  decide

/-! ### The conditions of a table -/

section Table

variable {t : Table} {target : String} {op op' : Operation}

lemma mem_tableConditions : op ∈ tableConditions t target ↔
    ∃ c ∈ t.columns, c.hasConditions = true ∧ op ∈ columnConditions (targetText t target) c := by
  simp [tableConditions, and_assoc]

/-- **The name of a condition is free**: builders of the library have nothing under it. -/
lemma not_isBuilderName (hop : op ∈ tableConditions t target) : ¬ IsBuilderName op.name := by
  have hfree : op.name ∉ builderNames ++ ownNames ++ commonNames := by
    intro hmem
    obtain ⟨c, -, -, hop⟩ := mem_tableConditions.1 hop
    cases hkey : c.primaryKey with
    | false => exact (ending_of_taken _ (named_of_mem hkey hop).1 _ hmem).1 (suffix_of_mem hkey hop)
    | true =>
      rw [eq_findBy_of_mem hkey hop] at hmem
      exact (ending_of_taken .eq (by decide) _ hmem).2 rfl
  simp only [List.mem_append, not_or] at hfree
  obtain ⟨⟨hbuilder, hown⟩, hcommon⟩ := hfree
  rintro (⟨title, htitle, h, hsome⟩ | hmem | ⟨h, v, hsome⟩)
  · rw [classMember?_eq_none hbuilder h title htitle] at hsome
    exact Bool.false_ne_true hsome
  · exact hown hmem
  · rw [commonMember?_eq_none hcommon] at hsome
    exact Bool.false_ne_true hsome

/-- Two columns that are compared are called by each other. -/
def HasNegated (t : Table) : Prop :=
  ∃ c ∈ t.columns, ∃ d ∈ t.columns, IsCompared c ∧ IsCompared d ∧ Negates c d

instance (t : Table) : Decidable (HasNegated t) := by
  unfold HasNegated IsCompared Negates
  infer_instance

/-- A column is compared under its name, and so is one that is called by another. -/
lemma exists_of_hasNegated (h : HasNegated t) (target : String) :
    ∃ op ∈ tableConditions t target, ∃ op' ∈ tableConditions t target,
      op ≠ op' ∧ op.name = op'.name := by
  obtain ⟨c, hc, d, hd, hcompared, hcompared', hname⟩ := h
  refine ⟨comparison (targetText t target) c .eq, mem_tableConditions.2
    ⟨c, hc, hcompared.1, comparison_mem hcompared.2 (.inl rfl)⟩,
    comparison (targetText t target) d .notEq, mem_tableConditions.2
    ⟨d, hd, hcompared'.1, comparison_mem hcompared'.2 (.inr rfl)⟩,
    fun heq => OperationKind.noConfusion (congrArg Operation.kind heq), ?_⟩
  change c.name ++ "_" ++ "eq" = d.name ++ "_" ++ "not_eq"
  rw [hname, String.append_assoc, String.append_assoc, String.append_assoc]
  rfl

section Distinct

variable (hnames : (t.columns.map (·.name)).Nodup) (hkeys : t.columns.countP (·.primaryKey) ≤ 1)

include hnames

lemma nodup_tableConditions (target : String) : (tableConditions t target).Nodup := by
  refine List.nodup_flatMap.2 ⟨fun c _ => (nodup_kinds _ c).of_map, ?_⟩
  have hcolumns : t.columns.Pairwise fun c d => c.name ≠ d.name := List.pairwise_map.1 hnames
  refine (hcolumns.filter _).imp fun {c d} hne op hop hop' => hne ?_
  obtain ⟨⟨_, hmakes⟩, -⟩ := makes_of_mem hop
  obtain ⟨⟨_, hmakes'⟩, -⟩ := makes_of_mem hop'
  exact Option.some.inj (hmakes.column.symm.trans hmakes'.column)

include hkeys

/-- **A name tells a condition**, unless columns are called by each other. -/
lemma eq_of_mem_tableConditions (hnot : ¬ HasNegated t) (hop : op ∈ tableConditions t target)
    (hop' : op' ∈ tableConditions t target) (hname : op.name = op'.name) : op = op' := by
  obtain ⟨c, hc, hsearched, hop⟩ := mem_tableConditions.1 hop
  obtain ⟨d, hd, hsearched', hop'⟩ := mem_tableConditions.1 hop'
  have hfind : ∀ kind ∈ comparedKinds, ¬ ending kind <:+ "find".toList := by decide
  cases hkey : c.primaryKey <;> cases hkey' : d.primaryKey
  case true.true =>
    have hone : ∀ {l : List Column}, l.length ≤ 1 → c ∈ l → d ∈ l → c = d := by
      rintro (_ | ⟨x, _ | ⟨y, l⟩⟩) hl hc hd
      · exact absurd hc List.not_mem_nil
      · rw [List.mem_singleton.1 hc, List.mem_singleton.1 hd]
      · exact absurd hl (by simp)
    rw [List.countP_eq_length_filter] at hkeys
    obtain rfl := hone hkeys (List.mem_filter.2 ⟨hc, hkey⟩) (List.mem_filter.2 ⟨hd, hkey'⟩)
    rw [eq_findBy_of_mem hkey hop, eq_findBy_of_mem hkey hop']
  case true.false =>
    rw [eq_findBy_of_mem hkey hop] at hname
    have hsuffix := suffix_of_mem hkey' hop'
    rw [← hname] at hsuffix
    exact absurd hsuffix (hfind _ (named_of_mem hkey' hop').1)
  case false.true =>
    rw [eq_findBy_of_mem hkey' hop'] at hname
    have hsuffix := suffix_of_mem hkey hop
    rw [hname] at hsuffix
    exact absurd hsuffix (hfind _ (named_of_mem hkey hop).1)
  case false.false =>
    rcases eq_of_name_eq hkey hkey' hop hop' hname with ⟨hcolumn, hkind⟩ | hnegates | hnegates
    · obtain rfl := List.inj_on_of_nodup_map hnames hc hd hcolumn
      exact List.inj_on_of_nodup_map (nodup_kinds _ c) hop hop' hkind
    · exact absurd ⟨c, hc, d, hd, ⟨hsearched, hkey⟩, ⟨hsearched', hkey'⟩, hnegates⟩ hnot
    · exact absurd ⟨d, hd, c, hc, ⟨hsearched', hkey'⟩, ⟨hsearched, hkey⟩, hnegates⟩ hnot

end Distinct

end Table

/-! ### Conditions in a class -/

/-- The methods of a class by their names: a later one takes the place of one before it. -/
def methodsByName (ops : List Operation) : Entries Operation :=
  Entries.collapse (ops.map fun op => (op.name, op))

/-- Methods with names of their own are all found. -/
lemma get?_methodsByName {ops : List Operation} {op : Operation}
    (h : (ops.map (·.name)).Nodup) (hop : op ∈ ops) :
    (methodsByName ops).get? op.name = some op := by
  have hkeys : ((ops.map fun op => (op.name, op)).map Prod.fst).Nodup := by
    rwa [List.map_map]
  rw [methodsByName, Entries.collapse_of_nodup hkeys, Entries.get?_eq_some_iff hkeys]
  exact List.mem_map_of_mem hop

/-- **The conditions of a table do not get in each other's way**, nor in that of anything else that
builders have, as long as no two columns that are compared are called by each other.  If they are,
two conditions have one name, and the class of a builder keeps one of them only. -/
theorem conditions_apart_iff {t : Table} (hnames : (t.columns.map (·.name)).Nodup)
    (hkeys : t.columns.countP (·.primaryKey) ≤ 1) (target : String) :
    (((tableConditions t target).map (·.name)).Nodup ↔ ¬ HasNegated t) ∧
      ((∀ op ∈ tableConditions t target,
        (methodsByName (tableConditions t target)).get? op.name = some op) ↔ ¬ HasNegated t) ∧
      ∀ op ∈ tableConditions t target, ¬ IsBuilderName op.name := by
  have hnodup : ¬ HasNegated t → ((tableConditions t target).map (·.name)).Nodup := fun hnot =>
    (List.nodup_map_iff_inj_on (nodup_tableConditions hnames target)).2 fun op hop op' hop' =>
      eq_of_mem_tableConditions hnames hkeys hnot hop hop'
  refine ⟨⟨fun hn h => ?_, hnodup⟩, ⟨fun hkept h => ?_, fun hnot op => get?_methodsByName (hnodup hnot)⟩,
    fun op => not_isBuilderName⟩
  · obtain ⟨op, hop, op', hop', hne, hname⟩ := exists_of_hasNegated h target
    exact hne (List.inj_on_of_nodup_map hn hop hop' hname)
  · obtain ⟨op, hop, op', hop', hne, hname⟩ := exists_of_hasNegated h target
    have hkept' := hkept op' hop'
    rw [← hname, hkept op hop] at hkept'
    exact hne (Option.some.inj hkept')

/-- A table with two numbers that are compared, one called by the other. -/
def negatedTable : Table where
  name := "t"
  columns := ["a", "a_not"].map fun name => ⟨name, name, .int, false, true, false, false, .none⟩
  modelName := "T"
  modelModule := ""
  relationName := "TRelation"
  selectorName := "TSelector"
  updaterName := "TUpdater"
  deleterName := "TDeleter"
  inserterName := "TInserter"
  createStatement := ""
  indexStatements := []

/-- The question whether `a` differs from a value cannot be asked: its name is that of the question
whether `a_not` equals one. -/
theorem conditions_apart_iff_negated :
    (negatedTable.columns.map (·.name)).Nodup ∧ negatedTable.columns.countP (·.primaryKey) ≤ 1 ∧
      ¬ ((tableConditions negatedTable "").map (·.name)).Nodup ∧
      ¬ ∀ op ∈ tableConditions negatedTable "",
        (methodsByName (tableConditions negatedTable "")).get? op.name = some op := by
  have hnames : (negatedTable.columns.map (·.name)).Nodup := by decide
  have hkeys : negatedTable.columns.countP (·.primaryKey) ≤ 1 := by decide
  have hnegated : HasNegated negatedTable := by decide
  obtain ⟨hnodup, hkept, -⟩ := conditions_apart_iff hnames hkeys ""
  exact ⟨hnames, hkeys, fun h => hnodup.1 h hnegated, fun h => hkept.1 h hnegated⟩

end PgSchema.Codegen
