import PgSchema.Codegen.Module
import PgSchema.Proofs.Json.RoundTrip
import PgSchema.Proofs.Schema.Built
import PgSchema.Proofs.Source.Literals

/-!
Tables written out and read back.

What has been read as a table has all its names: those that may be left out are put in before the
fields are read (`Table.isFilled_of_check`).  A table that has them all is found again in its text,
where nothing has to be put in (`Table.ofText_toText`), and its text in the literal of a generated
module (`Table.constant_denotes`).
-/

namespace PgSchema

open Json (Fits)

/-! ### Fields that are there -/

lemma Json.isTruthy_text {s : String} : (Json.text s).isTruthy = true ↔ s ≠ "" := by
  simp [Json.isTruthy]

namespace Checked

variable {α : Type} {fields : Entries Json} {name : String} {read : Json → Checked α}

lemma text_eq_ok {value : Json} {s : String} (h : text value = .ok s) : value = .text s := by
  cases value <;> cases h
  rfl

lemma text_of_field {default s : String} (h : field fields name (some default) text = .ok s) :
    fields.get? name = some (.text s) ∨ fields.get? name = none := by
  unfold field at h
  cases hv : fields.get? name with
  | none => exact .inr rfl
  | some value =>
    rw [hv] at h
    exact .inl (congrArg some (text_eq_ok (within_eq_ok.1 h)))

lemma filled_of_field {s : String} (h : field fields name none filledText = .ok s) :
    fields.get? name = some (.text s) ∧ s ≠ "" := by
  obtain ⟨value, hvalue, hread⟩ := field_eq_ok h
  obtain ⟨rfl, hs⟩ := filledText_eq_ok hread
  exact ⟨hvalue, hs⟩

/-- A text that is there, and not the empty one. -/
lemma ne_empty_of_field {default s : String}
    (htruthy : ((fields.get? name).getD .null).isTruthy = true)
    (h : field fields name (some default) text = .ok s) : s ≠ "" := by
  rintro rfl
  rcases text_of_field h with h | h <;> rw [h] at htruthy <;> cases htruthy

/-- Items that are found again one by one are found again. -/
lemma each_map {write : α → Json} {xs : List α}
    (h : ∀ x ∈ xs, read (write x) = .ok x) {index : Nat} :
    each read index (xs.map write) = .ok xs := by
  induction xs generalizing index with
  | nil => rfl
  | cons x xs ih =>
    obtain ⟨hx, hxs⟩ := List.forall_mem_cons.1 h
    rw [List.map_cons, each, hx, ih hxs]
    rfl

lemma exists_of_each {index : Nat} {values : List Json} {xs : List α}
    (h : each read index values = .ok xs) : ∀ x ∈ xs, ∃ value, read value = .ok x := by
  induction values generalizing index xs with
  | nil =>
    cases h
    exact fun x hx => (List.not_mem_nil hx).elim
  | cons value values ih =>
    obtain ⟨cons, rest, hcons, hrest, rfl⟩ := ap_eq_ok.1 h
    obtain ⟨x, hx, rfl⟩ := map_eq_ok.1 hcons
    exact List.forall_mem_cons.2 ⟨⟨value, within_eq_ok.1 hx⟩, ih hrest⟩

/-- The items of a field come from values. -/
lemma exists_of_field {xs : List α} (h : field fields name (some []) (list read) = .ok xs) :
    ∀ x ∈ xs, ∃ value, read value = .ok x := by
  unfold field at h
  cases hv : fields.get? name with
  | none =>
    rw [hv] at h
    cases h
    exact fun x hx => (List.not_mem_nil hx).elim
  | some value =>
    rw [hv] at h
    have hlist := within_eq_ok.1 h
    cases value with
    | list values => exact exists_of_each hlist
    | _ => cases hlist

end Checked

/-! ### Columns -/

namespace Column

/-- The column has both its names. -/
structure IsFilled (c : Column) : Prop where
  name : c.name ≠ ""
  columnName : c.columnName ≠ ""

/-- The name in the database is there when the fields are read. -/
lemma isTruthy_withColumnName {fields : Entries Json}
    (h : (((withColumnName fields).get? "name").getD .null).isTruthy = true) :
    (((withColumnName fields).get? "column_name").getD .null).isTruthy = true := by
  unfold withColumnName at h ⊢
  split_ifs at h ⊢ with hgiven
  · exact hgiven
  · rw [Entries.get?_put_of_ne (by decide)] at h
    rw [Entries.get?_put_self]
    cases hname : fields.get? "name" with
    | none => rw [hname] at h; cases h
    | some value => rwa [hname] at h

lemma isFilled_of_check {value : Json} {c : Column} (h : check value = .ok c) : c.IsFilled := by
  cases value with
  | object fields =>
    simp only [check, ofFields, Checked.ap_eq_ok, Checked.map_eq_ok] at h
    obtain ⟨_, _, ⟨_, _, ⟨_, _, ⟨_, _, ⟨_, _, ⟨_, _, ⟨_, _, ⟨name, hname, rfl⟩, hcolumn, rfl⟩, -,
      rfl⟩, -, rfl⟩, -, rfl⟩, -, rfl⟩, -, rfl⟩, -, rfl⟩ := h
    obtain ⟨hget, hne⟩ := Checked.filled_of_field hname
    refine ⟨hne, Checked.ne_empty_of_field (isTruthy_withColumnName ?_) hcolumn⟩
    rw [hget, Option.getD_some, Json.isTruthy_text]
    exact hne
  | _ => cases h

/-- **A column is found again** in its value. -/
lemma check_toJson {c : Column} (h : c.IsFilled) : check c.toJson = .ok c := by
  have hcolumn : (Json.text c.columnName).isTruthy = true := Json.isTruthy_text.2 h.columnName
  have hkind : StorageKind.ofText? c.kind.text = some c.kind := by cases c.kind <;> rfl
  have hpolicy : OnConflict.ofText? c.onConflict.text = some c.onConflict := by
    cases c.onConflict <;> rfl
  have hname := Checked.filledText_eq_ok_iff.2 ⟨rfl, h.name⟩
  simp [check, toJson, ofFields, withColumnName, Entries.get?, List.lookup_cons, hcolumn,
    Checked.field, Checked.choice, Checked.ofOption, Checked.within, Checked.map, Checked.ap,
    Checked.text, Checked.bool, Json.text?, hkind, hpolicy, hname]

lemma fits_toJson (c : Column) (digits depth : Nat) : Fits digits (depth + 1) c.toJson := by
  have hkeys : ∀ f ∈ c.toJson.fields, Fits digits depth f.2 := by
    simp only [toJson, Json.fields, List.forall_mem_cons, List.not_mem_nil, false_imp_iff,
      implies_true, and_true]
    exact ⟨.text _ _, .text _ _, .text _ _, .bool _ _, .bool _ _, .bool _ _, .bool _ _, .text _ _⟩
  refine .object ?_ hkeys
  show (["name", "column_name", "storage_kind", "nullable", "indexed", "primary_key", "auto_id",
    "on_conflict"] : List String).Nodup
  decide

end Column

namespace Table

/-- The table and its columns have all their names, and the table has its statement. -/
structure IsFilled (t : Table) : Prop where
  name : t.name ≠ ""
  columns : ∀ c ∈ t.columns, c.IsFilled
  modelName : t.modelName ≠ ""
  relationName : t.relationName ≠ ""
  selectorName : t.selectorName ≠ ""
  updaterName : t.updaterName ≠ ""
  deleterName : t.deleterName ≠ ""
  inserterName : t.inserterName ≠ ""
  createStatement : t.createStatement ≠ ""

/-- Texts that are put in where none is there. -/
lemma isTruthy_foldl (start : String) {names : List (String × String)}
    (hnames : ∀ p ∈ names, p.2 ≠ "") (fields : Entries Json) (key : String)
    (hkey : ((fields.get? key).getD .null).isTruthy = true ∨ key ∈ names.map Prod.fst) :
    (((names.foldl (fun fields (field, suffix) =>
      if ((fields.get? field).getD .null).isTruthy then fields
      else fields.put field (.text (start ++ suffix))) fields).get? key).getD .null).isTruthy =
        true := by
  induction names generalizing fields with
  | nil => exact hkey.resolve_right List.not_mem_nil
  | cons p names ih =>
    obtain ⟨hp, hrest⟩ := List.forall_mem_cons.1 hnames
    rw [List.foldl_cons]
    refine ih hrest _ ?_
    dsimp only
    by_cases hkept : ((fields.get? p.1).getD .null).isTruthy = true
    · rw [if_pos hkept]
      refine hkey.elim .inl fun hmem => ?_
      rcases List.mem_cons.1 hmem with rfl | hmem
      · exact .inl hkept
      · exact .inr hmem
    · rw [if_neg hkept]
      rcases eq_or_ne key p.1 with rfl | hne
      · rw [Entries.get?_put_self, Option.getD_some, Json.isTruthy_text]
        exact .inl fun h => hp (String.append_eq_empty_iff.1 h).2
      · rw [Entries.get?_put_of_ne hne]
        exact hkey.imp_right fun hmem => (List.mem_cons.1 hmem).resolve_left hne

/-- **Names of classes are there** when the fields are read. -/
lemma isTruthy_withClassNames {fields : Entries Json}
    (h : ((fields.get? "model_class_name").getD .null).isTruthy = true) {key : String}
    (hkey : key ∈ classFields.map Prod.fst) :
    (((withClassNames fields).get? key).getD .null).isTruthy = true := by
  unfold withClassNames
  rw [if_pos h]
  exact isTruthy_foldl _ (by decide) fields key (.inr hkey)

/-- What is read from fields has all its names, with columns that have them. -/
lemma isFilled_of_parts {fields : Entries Json} {columns : Checked (List Column)}
    {create : Checked String} {indexes : Checked (List String)} {t : Table}
    (h : ofParts fields columns create indexes = .ok t)
    (hcolumns : ∀ cs, columns = .ok cs → ∀ c ∈ cs, c.IsFilled)
    (hcreate : ∀ s, create = .ok s → s ≠ "") : t.IsFilled := by
  simp only [ofParts, Checked.ap_eq_ok, Checked.map_eq_ok] at h
  obtain ⟨_, _, ⟨_, _, ⟨_, _, ⟨_, _, ⟨_, _, ⟨_, _, ⟨_, _, ⟨_, _, ⟨_, _, ⟨_, _, ⟨name, hname, rfl⟩,
    hcols, rfl⟩, hmodel, rfl⟩, -, rfl⟩, hrelation, rfl⟩, hselector, rfl⟩, hupdater, rfl⟩,
    hdeleter, rfl⟩, hinserter, rfl⟩, hstatement, rfl⟩, -, rfl⟩ := h
  obtain ⟨hget, hne⟩ := Checked.filled_of_field hmodel
  rw [get?_withClassNames (by decide)] at hget
  have htruthy : ((fields.get? "model_class_name").getD .null).isTruthy = true := by
    rw [hget, Option.getD_some, Json.isTruthy_text]
    exact hne
  have hclass : ∀ key ∈ classFields.map Prod.fst, ∀ s,
      Checked.field (withClassNames fields) key (some "") Checked.text = .ok s → s ≠ "" :=
    fun key hkey s => Checked.ne_empty_of_field (isTruthy_withClassNames htruthy hkey)
  exact ⟨(Checked.filled_of_field hname).2, hcolumns _ hcols, hne,
    hclass _ (by decide) _ hrelation, hclass _ (by decide) _ hselector,
    hclass _ (by decide) _ hupdater, hclass _ (by decide) _ hdeleter,
    hclass _ (by decide) _ hinserter, hcreate _ hstatement⟩

lemma isFilled_of_check {value : Json} {t : Table} (h : check value = .ok t) : t.IsFilled := by
  cases value with
  | object fields =>
    refine isFilled_of_parts h (fun cs hcs c hc => ?_) fun s hs => (Checked.filled_of_field hs).2
    obtain ⟨x, hx⟩ := Checked.exists_of_field hcs c hc
    exact Column.isFilled_of_check hx
  | _ => cases h

/-- A table that is built has all its names, if its columns have them. -/
lemma isFilled_of_build {fields : Entries Json} {columns : List Column} {t : Table}
    (hcolumns : ∀ c ∈ columns, c.IsFilled) (h : build fields columns = .ok t) : t.IsFilled := by
  unfold build at h
  split at h
  · split_ifs at h
    refine isFilled_of_parts (Checked.report_eq_ok.1 h) (fun cs hcs => ?_) fun s hs => ?_
    · cases hcs
      exact hcolumns
    · cases hs
      exact fun hempty => absurd (String.append_eq_empty_iff.1 hempty).2 (by decide)
  · cases h

/-- **A table is found again** in its value. -/
lemma check_toJson {t : Table} (h : t.IsFilled) : check t.toJson = .ok t := by
  have hclass : withClassNames t.toJson.fields = t.toJson.fields := by
    simp [withClassNames, classFields, toJson, Json.fields, Entries.get?, List.lookup_cons,
      Json.isTruthy, h.relationName, h.selectorName, h.updaterName, h.deleterName, h.inserterName]
  have hcolumns : Checked.list Column.check (.list (t.columns.map Column.toJson)) =
      .ok t.columns :=
    Checked.each_map fun c hc => Column.check_toJson (h.columns c hc)
  have hindexes : Checked.list Checked.text (Json.texts t.indexStatements) =
      .ok t.indexStatements := by
    refine Checked.each_map fun s _ => ?_
    rfl
  have hname := Checked.filledText_eq_ok_iff.2 ⟨rfl, h.name⟩
  have hmodel := Checked.filledText_eq_ok_iff.2 ⟨rfl, h.modelName⟩
  have hcreate := Checked.filledText_eq_ok_iff.2 ⟨rfl, h.createStatement⟩
  have hchecked : check t.toJson = ofFields t.toJson.fields := rfl
  rw [hchecked, ofFields, ofParts, hclass]
  simp [toJson, Json.fields, Entries.get?, List.lookup_cons, Checked.field, Checked.within,
    Checked.map, Checked.ap, Checked.text, hname, hmodel, hcreate, hcolumns, hindexes]

lemma fits_toJson (t : Table) (digits depth : Nat) : Fits digits (depth + 3) t.toJson := by
  have hvalues : ∀ f ∈ t.toJson.fields, Fits digits (depth + 2) f.2 := by
    have hcolumns : Fits digits (depth + 2) (.list (t.columns.map Column.toJson)) := by
      refine .list fun x hx => ?_
      obtain ⟨c, -, rfl⟩ := List.mem_map.1 hx
      exact c.fits_toJson digits depth
    have hindexes : Fits digits (depth + 2) (Json.texts t.indexStatements) := by
      refine .list fun x hx => ?_
      obtain ⟨s, -, rfl⟩ := List.mem_map.1 hx
      exact .text _ _
    simp only [toJson, Json.fields, List.forall_mem_cons, List.not_mem_nil, false_imp_iff,
      implies_true, and_true]
    exact ⟨.text _ _, hcolumns, .text _ _, .text _ _, .text _ _, .text _ _, .text _ _, .text _ _,
      .text _ _, .text _ _, hindexes⟩
  refine .object ?_ hvalues
  show (["table_name", "columns", "model_class_name", "model_module", "relation_class_name",
    "selector_class_name", "updater_class_name", "deleter_class_name", "inserter_class_name",
    "create_table_statement", "create_index_statements"] : List String).Nodup
  decide

/-! ### Valid tables -/

/-- The table was read from a value or a text, or was built from columns that were read. -/
def IsValid (t : Table) : Prop :=
  (∃ value, ofJson value = .ok t) ∨ (∃ source, ofText source = .ok t) ∨
    ∃ fields columns, (∀ c ∈ columns, ∃ value, Column.ofJson value = .ok c) ∧
      build fields columns = .ok t

/-- **A table with all its names is found again** in its text. -/
lemma ofText_toText {t : Table} (h : t.IsFilled) : ofText t.toText = .ok t := by
  have hread : Json.read maxDepth t.toText = .ok t.toJson := Json.read_compact (t.fits_toJson _ 197)
  unfold ofText
  rw [Checked.report_eq_ok, hread]
  exact check_toJson h

/-- The valid tables are those that have all their names. -/
lemma isValid_iff {t : Table} : t.IsValid ↔ t.IsFilled := by
  constructor
  · rintro (⟨value, h⟩ | ⟨source, h⟩ | ⟨fields, columns, hcolumns, h⟩)
    · exact isFilled_of_check (Checked.report_eq_ok.1 h)
    · have hchecked := Checked.report_eq_ok.1 h
      cases hread : Json.read maxDepth source with
      | ok value =>
        rw [hread] at hchecked
        exact isFilled_of_check hchecked
      | error e =>
        rw [hread] at hchecked
        cases hchecked
    · refine isFilled_of_build (fun c hc => ?_) h
      obtain ⟨value, hvalue⟩ := hcolumns c hc
      exact Column.isFilled_of_check (Checked.report_eq_ok.1 hvalue)
  · exact fun h => .inr (.inl ⟨t.toText, ofText_toText h⟩)

lemma toText_ne_empty (t : Table) : t.toText ≠ "" := by
  obtain ⟨c, cs, hchars, -⟩ := (t.fits_toJson 0 0).reads Json.legible_compactStyle
  change t.toText.toList = c :: cs at hchars
  rintro h
  rw [h] at hchars
  cases hchars

/-- **A constant stands for its table**.  A valid table is found again in its value and in its text,
whatever its texts are made of.  A generated module holds the literal of the text on a line of its
own; there and everywhere else it is a single token, and it stands for the text. -/
theorem constant_denotes {t : Table} (h : t.IsValid) :
    ofJson t.toJson = .ok t ∧ ofText t.toText = .ok t ∧
      (∀ (g : Settings.Generation) (m : Codegen.Module), t ∈ m.database.tables →
        g.indent ++ Text.literal t.toText ∈ m.constantLines g) ∧
        (∀ (l : Source.Lexer) (rest : List Char),
          l.rest = (Text.literal t.toText).toList ++ rest →
            l.readToken = .tokens [l.token .text (Text.literal t.toText)]
              { l with rest, isLineStart := false }) ∧
          Source.Literal.piece (Text.literal t.toText) = .ok (.text t.toText) := by
  have hfilled := isValid_iff.1 h
  refine ⟨Checked.report_eq_ok.2 (check_toJson hfilled), ofText_toText hfilled, fun g m ht => ?_,
    fun _ _ => Source.readToken_literal t.toText_ne_empty, Source.piece_literal _⟩
  have hline : g.indent ++ Text.literal t.toText ∈ m.database.tables.flatMap fun t =>
      [Codegen.schemaConstant t ++ " = TableDefinition.model_validate_json(",
        g.indent ++ Text.literal t.toText, ")", ""] :=
    List.mem_flatMap.2 ⟨t, ht, List.mem_cons_of_mem _ List.mem_cons_self⟩
  simp only [Codegen.Module.constantLines, List.mem_append]
  exact .inl (.inl (.inl (.inr hline)))

/-- A table with marks, backslashes and line ends in its names. -/
def awkward : Table :=
  ofColumns "a'b\"c\\\n" "\x07é\u2028" [⟨"x\x00", "\t", .blob, true, true, false, false, .replace⟩]

/-- A constant whose text has to be escaped twice. -/
theorem constant_denotes_awkward : awkward.IsValid ∧ ofText awkward.toText = .ok awkward := by
  have hvalid : awkward.IsValid := isValid_iff.2
    ⟨by decide, List.forall_mem_singleton.2 ⟨by decide, by decide⟩, by decide, by decide, by decide,
      by decide, by decide, by decide, by decide⟩
  exact ⟨hvalid, (constant_denotes hvalid).2.1⟩

end Table

end PgSchema
