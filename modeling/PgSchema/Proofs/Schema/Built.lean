import PgSchema.Proofs.Entries
import PgSchema.Schema.Build

/-!
Tables that were built from their columns.

The fields that are given decide the names of classes and modules only: the statements of a built
table are those of its name and its columns (`IsBuilt.createStatement_eq`,
`IsBuilt.indexStatements_eq`).
-/

namespace PgSchema

/-! ### Checked values that are there -/

namespace Checked

variable {α β : Type}

lemma map_eq_ok {f : α → β} {x : Checked α} {b : β} :
    x.map f = .ok b ↔ ∃ a, x = .ok a ∧ f a = b := by
  cases x <;> simp [map]

lemma ap_eq_ok {f : Checked (α → β)} {x : Checked α} {b : β} :
    f.ap x = .ok b ↔ ∃ g a, f = .ok g ∧ x = .ok a ∧ g a = b := by
  cases f <;> cases x <;> simp [ap, map]

lemma report_eq_ok {model : String} {origin : Origin} {x : Checked α} {a : α} :
    (x.report model origin).mapError Fault.invalid = .ok a ↔ x = .ok a := by
  cases x with
  | ok b =>
    constructor
    · rintro ⟨⟩
      rfl
    · rintro ⟨⟩
      rfl
  | bad complaints => exact ⟨nofun, nofun⟩

lemma filledText_eq_ok {value : Json} {s : String} (h : filledText value = .ok s) :
    value = .text s ∧ s ≠ "" := by
  cases value with
  | text t =>
    simp only [filledText, text] at h
    split at h
    · simp [complain] at h
    · rename_i hne
      cases h
      exact ⟨rfl, fun ht => hne (by rw [ht])⟩
  | _ => simp [filledText, text, complain] at h

lemma filledText_eq_ok_iff {value : Json} {s : String} :
    filledText value = .ok s ↔ value = .text s ∧ s ≠ "" := by
  refine ⟨filledText_eq_ok, ?_⟩
  rintro ⟨rfl, hs⟩
  simp only [filledText, text]
  split
  case h_1 heq => exact absurd (Checked.ok.inj heq) hs
  case h_2 => rfl

lemma within_eq_ok {step : Place} {x : Checked α} {a : α} : x.within step = .ok a ↔ x = .ok a := by
  cases x <;> simp [within]

lemma field_eq_ok {fields : Entries Json} {name : String} {read : Json → Checked α} {a : α}
    (h : field fields name none read = .ok a) :
    ∃ value, fields.get? name = some value ∧ read value = .ok a := by
  unfold field at h
  cases hv : fields.get? name with
  | none => simp [hv] at h
  | some value =>
    rw [hv] at h
    exact ⟨value, rfl, within_eq_ok.1 h⟩

end Checked

namespace Table

/-- Names of generated classes are put in, and the other fields stay. -/
lemma get?_withClassNames {fields : Entries Json} {name : String}
    (h : ∀ field ∈ classFields, name ≠ field.1) :
    (withClassNames fields).get? name = fields.get? name := by
  have hfold : ∀ (names : List (String × String))
      (step : Entries Json → String × String → Entries Json) (fields : Entries Json),
      (∀ fs, ∀ p ∈ names, (step fs p).get? name = fs.get? name) →
      (names.foldl step fields).get? name = fields.get? name := by
    intro names step
    induction names with
    | nil => exact fun _ _ => rfl
    | cons p names ih =>
      intro fields hs
      rw [List.foldl_cons, ih _ fun fs q hq => hs fs q (List.mem_cons_of_mem _ hq)]
      exact hs fields p List.mem_cons_self
  unfold withClassNames
  dsimp only
  split
  · refine hfold _ _ _ fun fs p hp => ?_
    split
    · rfl
    · exact Entries.get?_put_of_ne (h p hp)
  · rfl

/-- **A table that was built** from its columns. -/
def IsBuilt (t : Table) : Prop := ∃ fields columns, build fields columns = .ok t

lemma ofParts_eq_ok {fields : Entries Json} {columns : List Column} {create : String}
    {indexes : List String} {t : Table}
    (h : ofParts fields (.ok columns) (.ok create) (.ok indexes) = .ok t) :
    fields.get? "table_name" = some (.text t.name) ∧ t.name ≠ "" ∧ t.columns = columns ∧
      t.createStatement = create ∧ t.indexStatements = indexes := by
  simp only [ofParts, Checked.ap_eq_ok, Checked.map_eq_ok] at h
  obtain ⟨_, _, ⟨_, _, ⟨_, _, ⟨_, _, ⟨_, _, ⟨_, _, ⟨_, _, ⟨_, _, ⟨_, _, ⟨_, _, ⟨name, hname, rfl⟩,
    hcols, rfl⟩, -, rfl⟩, -, rfl⟩, -, rfl⟩, -, rfl⟩, -, rfl⟩, -, rfl⟩, -, rfl⟩, hcreate, rfl⟩,
    hindex, rfl⟩ := h
  obtain ⟨value, hvalue, hread⟩ := Checked.field_eq_ok hname
  obtain ⟨rfl, hne⟩ := Checked.filledText_eq_ok hread
  rw [get?_withClassNames (by decide)] at hvalue
  cases hcols
  cases hcreate
  cases hindex
  exact ⟨hvalue, hne, rfl, rfl, rfl⟩

namespace IsBuilt

variable {t : Table}

lemma statements (h : t.IsBuilt) : t.createStatement = createText t.name t.columns ∧
    t.indexStatements = indexTexts t.name t.columns := by
  obtain ⟨fields, columns, h⟩ := h
  unfold build at h
  split at h
  · rename_i name hname
    split at h
    · cases h
    · obtain ⟨hn, -, hcols, hcreate, hindex⟩ := ofParts_eq_ok (Checked.report_eq_ok.1 h)
      rw [hn] at hname
      cases hname
      rw [hcols]
      exact ⟨hcreate, hindex⟩
  · cases h

lemma createStatement_eq (h : t.IsBuilt) : t.createStatement = createText t.name t.columns :=
  h.statements.1

lemma indexStatements_eq (h : t.IsBuilt) : t.indexStatements = indexTexts t.name t.columns :=
  h.statements.2

end IsBuilt

/-! ### Tables by name and columns -/

/-- The table of a name and columns, with the names of classes that come from the model's. -/
def ofColumns (name model : String) (columns : List Column) : Table where
  name := name
  columns := columns
  modelName := model
  modelModule := ""
  relationName := model ++ "Relation"
  selectorName := model ++ "Selector"
  updaterName := model ++ "Updater"
  deleterName := model ++ "Deleter"
  inserterName := model ++ "Inserter"
  createStatement := createText name columns
  indexStatements := indexTexts name columns

lemma withClassNames_model (name : String) {model : String} (h : model ≠ "") :
    withClassNames [("table_name", .text name), ("model_class_name", .text model)] =
      [("table_name", .text name), ("model_class_name", .text model),
       ("relation_class_name", .text (model ++ "Relation")),
       ("selector_class_name", .text (model ++ "Selector")),
       ("updater_class_name", .text (model ++ "Updater")),
       ("deleter_class_name", .text (model ++ "Deleter")),
       ("inserter_class_name", .text (model ++ "Inserter"))] := by
  have hnull : Json.null.isTruthy = false := rfl
  have hmodel : (Json.text model).isTruthy = true := by simp [Json.isTruthy, h]
  have hplain : (Json.text model).plain = model := rfl
  simp [withClassNames, classFields, Entries.get?, Entries.put, List.lookup_cons, hnull, hmodel,
    hplain]

lemma isBuilt_ofColumns {name model : String} (hn : name ≠ "") (hm : model ≠ "")
    (columns : List Column) : (ofColumns name model columns).IsBuilt := by
  refine ⟨[("table_name", .text name), ("model_class_name", .text model)], columns, ?_⟩
  have hname : Entries.get? [("table_name", Json.text name), ("model_class_name", .text model)]
      "table_name" = some (.text name) := rfl
  unfold build
  rw [hname]
  refine Checked.report_eq_ok.2 ?_
  simp [ofParts, withClassNames_model name hm, Entries.get?, List.lookup_cons,
    Checked.field, Checked.filledText, Checked.text, Checked.map, Checked.ap, Checked.within,
    ofColumns, hn, hm]

end Table

end PgSchema
