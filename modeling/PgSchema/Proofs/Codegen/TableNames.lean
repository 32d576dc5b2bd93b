import PgSchema.Proofs.Codegen.Surface
import PgSchema.Proofs.Object.Schemas
import PgSchema.Proofs.Source.Escapes

/-!
The names of tables in the text of a module.

The name of a table stands in the documentation of its classes, in the text that it is read from,
and as its key among the models.  The text that it is read from has escapes and always stands
(`stands_literal`).  The others have none: they stand, and the key denotes the name, only for names
that can be written like this (`stands_iff_writable`).  The models are registered by what their keys
denote, so a connection finds them all just if every key denotes the name of its table
(`registered_iff`).
-/

namespace PgSchema.Codegen

open Object (Link State Value eval evalEntries eval_name exec exec_assign lookName_global
  moduleFrame naming newDict_apply putEntry)
open Session (machine)
open Source (Denotes IsLetter Plain Stands Stmt countedName hasTriple)
open Text (doubleMark)

/-! ### Literals with the name of a table -/

/-- The key of a table among the models, as it is written. -/
def keyLiteral (t : Table) : String := "\"" ++ t.name ++ "\""

namespace Module

variable {m : Module} {t : Table} {literal : String}

/-- **The literals that the name of a table is embedded in**: the documentation of its classes, the
text that it is read from, and its key among the models. -/
inductive Embeds (m : Module) (t : Table) : String → Prop
  | documentation {c : ClassDef} (hc : c ∈ m.tableClasses t) :
    Embeds m t ("\"\"\"" ++ c.doc ++ "\"\"\"")
  | constant : Embeds m t (Text.literal t.toText)
  | key (ht : t ∈ m.importable) : Embeds m t (keyLiteral t)

/-- What does not end with a line end stays, if line ends are cut off behind it. -/
lemma infix_withoutLineEnds {w : List Char} {c : Char} (hc : c ≠ '\n') {s : String}
    (h : w ++ [c] <:+: s.toList) : w ++ [c] <:+: (withoutLineEnds s).toList := by
  obtain ⟨front, back, hs⟩ := h
  have hkept : (c :: w.reverse ++ front.reverse).dropWhile (· = '\n') =
      c :: w.reverse ++ front.reverse :=
    List.dropWhile_cons_of_neg (by simpa using hc)
  have hreverse : s.toList.reverse = back.reverse ++ (c :: w.reverse ++ front.reverse) := by
    rw [← hs]
    simp
  rw [withoutLineEnds, String.toList_ofList, hreverse, List.dropWhile_append, hkept]
  split_ifs
  · exact ⟨front, [], by simp⟩
  · exact ⟨front, (back.reverse.dropWhile (· = '\n')).reverse, by simp⟩

/-- What stands in one of some texts stands in the texts put together. -/
lemma infix_intercalate {w : List Char} {item : String} {items : List String} (separator : String)
    (hitem : item ∈ items) (h : w <:+: item.toList) :
    w <:+: (separator.intercalate items).toList := by
  rw [String.toList_intercalate]
  refine h.trans ?_
  induction items with
  | nil => cases hitem
  | cons first items ih =>
    rcases eq_or_ne items [] with rfl | hitems
    · rw [List.mem_singleton.1 hitem, List.map_singleton, List.intercalate_singleton]
    · rw [List.map_cons, List.intercalate_cons_of_ne_nil (List.map_eq_nil_iff.not.2 hitems)]
      obtain rfl | hitem := List.mem_cons.1 hitem
      · exact ⟨[], _, by rw [List.nil_append, List.append_assoc]⟩
      · exact (ih hitem).trans (List.suffix_append _ _).isInfix

/-- **A line of a part** of the module stands in its text. -/
lemma infix_text {g : Settings.Generation} {w : List Char} {c : Char} (hc : c ≠ '\n')
    {lines : List String} (hlines : lines = m.constantLines g ∨
      lines ∈ m.classes.map (ClassDef.render g.indent))
    {line : String} (hline : line ∈ lines) (h : w ++ [c] <:+: line.toList) :
    w ++ [c] <:+: (m.text g).toList := by
  let parts := [m.headerLines g, m.importLines g, m.constantLines g] ++
    m.classes.map (ClassDef.render g.indent) ++ [m.handleLines g]
  let cut := fun lines : List String => withoutLineEnds ("\n".intercalate lines)
  have hpart : w ++ [c] <:+: (cut lines).toList :=
    infix_withoutLineEnds hc (infix_intercalate "\n" hline h)
  have hparts : lines ∈ parts := by
    rcases hlines with rfl | hlines
    · simp [parts]
    · simp [parts, hlines]
  have htext : m.text g = "\n\n\n".intercalate (parts.map cut) ++ "\n" := rfl
  rw [htext, String.toList_append]
  refine (infix_intercalate "\n\n\n" (List.mem_map_of_mem hparts) hpart).trans ?_
  exact (List.prefix_append _ _).isInfix

/-- The literals end with marks. -/
lemma Embeds.exists_mark (h : m.Embeds t literal) :
    ∃ w mark, literal.toList = w ++ [mark] ∧ mark ≠ '\n' := by
  cases h with
  | @documentation c hc =>
    exact ⟨("\"\"\"" ++ c.doc ++ "\"\"").toList, doubleMark, by simp [doubleMark], by decide⟩
  | constant =>
    rw [Source.toList_literal, ← List.cons_append]
    refine ⟨_, _, rfl, ?_⟩
    rcases Source.markOf_cases t.toText.toList with h | h <;> rw [h] <;> decide
  | key =>
    exact ⟨doubleMark :: t.name.toList, doubleMark, by simp [keyLiteral, doubleMark], by decide⟩

/-- **The literals stand in the text of the module.** -/
lemma Embeds.infix_text (ht : t ∈ m.database.tables) (h : m.Embeds t literal)
    (g : Settings.Generation) : literal.toList <:+: (m.text g).toList := by
  obtain ⟨w, mark, hliteral, hmark⟩ := h.exists_mark
  rw [hliteral]
  cases h with
  | @documentation c hc =>
    have hclass : c ∈ m.classes := List.mem_flatMap.2 ⟨t, ht, hc⟩
    have hline : g.indent ++ "\"\"\"" ++ c.doc ++ "\"\"\"" ∈ c.render g.indent := by
      simp [ClassDef.render]
    refine Module.infix_text hmark (.inr (List.mem_map_of_mem hclass)) hline ?_
    rw [← hliteral]
    exact ⟨g.indent.toList, [], by simp⟩
  | constant =>
    have hline : g.indent ++ Text.literal t.toText ∈ m.constantLines g := by
      simp only [constantLines, List.mem_append, List.mem_flatMap]
      exact .inl (.inl (.inl (.inr ⟨t, ht, by simp⟩)))
    refine Module.infix_text hmark (.inl rfl) hline ?_
    rw [← hliteral]
    exact ⟨g.indent.toList, [], by simp⟩
  | key himportable =>
    have hline : g.indent ++ "\"" ++ t.name ++ "\": " ++ t.modelName ++ "," ∈
        m.constantLines g := by
      have hsome : m.importable ≠ [] := List.ne_nil_of_mem himportable
      simp only [constantLines, List.mem_append, List.isEmpty_iff, hsome, if_false]
      exact .inr (.inl (.inr (List.mem_map_of_mem himportable)))
    refine Module.infix_text hmark (.inl rfl) hline ?_
    rw [← hliteral]
    exact ⟨g.indent.toList, (": " ++ t.modelName ++ ",").toList, by simp [keyLiteral]⟩

end Module

/-! ### Names that can be written without escapes -/

/-- **The name of a table can be written as it is**: in documentation it makes no triple of marks,
and as a key among the models it is plain. -/
structure Writable (t : Table) : Prop where
  legible : '\x00' ∉ t.name.toList
  untripled : hasTriple (doubleMark :: t.name.toList ++ [doubleMark]) = false
  plain : t.modelModule ≠ "" → Plain t.name.toList

section Writable

variable {m : Module} {t : Table} {c : ClassDef}

/-- The documentation of a class names its table in marks, at the end of a sentence. -/
lemma toList_documentation (hc : c ∈ m.tableClasses t) :
    ∃ front : List Char, (∀ a ∈ front, IsLetter a) ∧
      ("\"\"\"" ++ c.doc ++ "\"\"\"").toList = doubleMark :: doubleMark :: doubleMark :: (front ++
        (doubleMark :: t.name.toList ++ [doubleMark] ++
          ['.', doubleMark, doubleMark, doubleMark])) := by
  simp only [Module.tableClasses, List.mem_cons, List.not_mem_nil, or_false] at hc
  rcases hc with rfl | rfl | rfl | rfl | rfl
  · exact ⟨"SELECT from ".toList, by decide, by simp [doubleMark]⟩
  · exact ⟨"UPDATE of ".toList, by decide, by simp [doubleMark]⟩
  · exact ⟨"DELETE from ".toList, by decide, by simp [doubleMark]⟩
  · exact ⟨"Prepared INSERT into ".toList, by decide, by simp [doubleMark]⟩
  · exact ⟨"Entry point for ".toList, by decide, by simp [doubleMark]⟩

lemma mem_importable_iff : t ∈ m.importable ↔ t ∈ m.database.tables ∧ t.modelModule ≠ "" := by
  rw [Module.importable, List.mem_filter, decide_eq_true_eq]

/-- **The literals of a table stand, and its key denotes its name**, if and only if the name can be
written as it is. -/
lemma stands_iff_writable (ht : t ∈ m.database.tables) (hname : t.name ≠ "") :
    ((∀ literal, m.Embeds t literal → Stands literal) ∧
      (t ∈ m.importable → Denotes (keyLiteral t) t.name)) ↔ Writable t := by
  have hkey : Stands (keyLiteral t) ∧ Denotes (keyLiteral t) t.name ↔ Plain t.name.toList :=
    Source.stands_short_iff hname (by simp [keyLiteral, doubleMark])
  constructor
  · rintro ⟨hstands, hdenotes⟩
    have hfirst : ∃ c, c ∈ m.tableClasses t := ⟨_, List.mem_cons_self⟩
    obtain ⟨c, hc⟩ := hfirst
    obtain ⟨front, hfront, hliteral⟩ := toList_documentation hc
    obtain ⟨hlegible, huntripled⟩ :=
      (Source.stands_long_iff hfront hliteral).1 (hstands _ (.documentation hc))
    refine ⟨hlegible, huntripled, fun hmodule => ?_⟩
    have himportable := mem_importable_iff.2 ⟨ht, hmodule⟩
    exact hkey.1 ⟨hstands _ (.key himportable), hdenotes himportable⟩
  · rintro ⟨hlegible, huntripled, hplain⟩
    refine ⟨fun literal h => ?_, fun himportable =>
      (hkey.2 (hplain (mem_importable_iff.1 himportable).2)).2⟩
    cases h with
    | documentation hc =>
      obtain ⟨front, hfront, hliteral⟩ := toList_documentation hc
      exact (Source.stands_long_iff hfront hliteral).2 ⟨hlegible, huntripled⟩
    | constant => exact Source.stands_literal t.toText_ne_empty
    | key himportable => exact (hkey.2 (hplain (mem_importable_iff.1 himportable).2)).1

end Writable

/-! ### Models by table -/

/-- The name of the models by table. -/
def registryName : String := "MODELS"

/-- The lines that register models by table, each under its key as it is written. -/
def registryLines (indent : String) (tables : List Table) : List String :=
  if tables.isEmpty then [registryName ++ " = \x7b\x7d"]
  else [registryName ++ " = \x7b"] ++
    tables.map (fun t => indent ++ keyLiteral t ++ ": " ++ t.modelName ++ ",") ++ ["\x7d"]

/-- The statement that they are, given what their keys denote, by how names count. -/
def registryStatement (name : String → String) (key : Table → String) (tables : List Table) :
    Stmt :=
  .assign [.name (name registryName)]
    (.dict (tables.map fun t => (.constant (.text (key t)), .name (name t.modelName))))

/-- **The constants of a module end with these lines.** -/
lemma registryLines_suffix (m : Module) (g : Settings.Generation) :
    registryLines g.indent m.importable <:+ m.constantLines g := by
  have hlines : registryLines g.indent m.importable =
      if m.importable.isEmpty then ["MODELS = \x7b\x7d"]
      else ["MODELS = \x7b"] ++
        m.importable.map (fun t => g.indent ++ "\"" ++ t.name ++ "\": " ++ t.modelName ++ ",") ++
        ["\x7d"] := by
    have hline : ∀ t : Table, g.indent ++ keyLiteral t ++ ": " ++ t.modelName ++ "," =
        g.indent ++ "\"" ++ t.name ++ "\": " ++ t.modelName ++ "," := fun t => by
      rw [← String.toList_inj]
      simp [keyLiteral]
    simp only [registryLines, hline]
    rfl
  rw [hlines, Module.constantLines]
  exact List.suffix_append _ _

/-- Models by table as values. -/
def registered (models : Entries String) : List (Value × Value) :=
  models.map fun e => (.text e.1, .cls (.model e.2))

/-- Models by the keys of their tables. -/
def keyed (key : Table → String) (tables : List Table) : Entries String :=
  tables.map fun t => (key t, t.modelName)

section Registry

variable {c : Course State} {key : Table → String} {tables : List Table} {t : Table}

section Entry

variable {h : Object.Heap} {entries : List (Value × Value)} {e : Value × Value} {k x : Value}

/-- An entry stays in front of one that is put among those behind it. -/
lemma putEntry_cons_of_ne (he : Object.sameValue h e.1 k = false) :
    putEntry h (e :: entries) k x = e :: putEntry h entries k x := by
  simp only [putEntry, List.any_cons, he, Bool.false_or, List.map_cons, Bool.false_eq_true,
    if_false, List.cons_append]
  split_ifs <;> rfl

/-- The only entry with a key is changed in its place. -/
lemma putEntry_cons_of_same (he : Object.sameValue h e.1 k = true)
    (hentries : ∀ e ∈ entries, Object.sameValue h e.1 k = false) :
    putEntry h (e :: entries) k x = (e.1, x) :: entries := by
  have hothers : entries.map (fun e => if Object.sameValue h e.1 k then (e.1, x) else e) =
      entries := by
    rw [List.map_congr_left fun e he => if_neg (Bool.eq_false_iff.1 (hentries e he)), List.map_id']
  simp only [putEntry, List.any_cons, he, Bool.true_or, List.map_cons, if_true, hothers]

end Entry

/-- A model that is put among others takes the place of the one under its key. -/
lemma putEntry_registered (h : Object.Heap) {models : Entries String} (hkeys : models.keys.Nodup)
    (name model : String) :
    putEntry h (registered models) (.text name) (.cls (.model model)) =
      registered (models.put name model) := by
  have hsame : ∀ k : String, Object.sameValue h (.text k) (.text name) = (k == name) := fun _ => rfl
  induction models with
  | nil => rfl
  | cons e models ih =>
    obtain ⟨k, v⟩ := e
    obtain ⟨hk, hkeys⟩ := List.nodup_cons.1 hkeys
    rw [Entries.put]
    split_ifs with heq
    · subst heq
      refine putEntry_cons_of_same ((hsame k).trans (beq_self_eq_true k)) fun e he => ?_
      obtain ⟨other, hother, rfl⟩ := List.mem_map.1 he
      rw [hsame, beq_eq_false_iff_ne]
      exact fun heq => hk (List.mem_map.2 ⟨other, hother, heq.trans rfl⟩)
    · have hne : (k == name) = false := beq_false_of_ne heq
      exact (putEntry_cons_of_ne ((hsame k).trans hne)).trans (congrArg _ (ih hkeys))

/-- Models that are put one after the other are those that were put last under their keys. -/
lemma foldl_putEntry (h : Object.Heap) {models : Entries String} (hkeys : models.keys.Nodup)
    (others : Entries String) :
    (registered others).foldl (fun es e => putEntry h es e.1 e.2) (registered models) =
      registered (models.merge others) := by
  induction others generalizing models with
  | nil => rfl
  | cons e others ih =>
    have hput := putEntry_registered h hkeys e.1 e.2
    have hcons : registered (e :: others) =
        (.text e.1, .cls (.model e.2)) :: registered others := rfl
    rw [hcons, List.foldl_cons, hput]
    exact ih (Entries.nodup_put hkeys _ _)

/-- The models that are known are those that are registered. -/
lemma knownModels_registered {h : Object.Heap} {id : Nat} {models : Entries String}
    (hid : h[id]? = some (.dict (registered models))) :
    Link.knownModels h (.dict id) = models := by
  rw [Link.knownModels, Object.Heap.entries, hid, registered, List.filterMap_map]
  exact List.filterMap_some

/-- The entries of the models, where the names of the models stand for their classes. -/
lemma evalEntries_models (m : Object.Machine) (h : ∀ t ∈ tables,
    c.work.globals.get? (countedName "" t.modelName) = some (.cls (.model t.modelName))) :
    evalEntries m moduleFrame
        (tables.map fun t => (.constant (.text (key t)), .name (countedName "" t.modelName))) c =
      (.ok (registered (keyed key tables)), c) := by
  induction tables with
  | nil =>
    rw [List.map_nil, evalEntries]
    rfl
  | cons t tables ih =>
    obtain ⟨ht, htables⟩ := List.forall_mem_cons.1 h
    have hkey : eval m moduleFrame (.constant (.text (key t))) c = (.ok (.text (key t)), c) := by
      rw [eval]
      rfl
    have hmodel : eval m moduleFrame (.name (countedName "" t.modelName)) c =
        (.ok (.cls (.model t.modelName)), c) := eval_name (lookName_global ht) m
    rw [List.map_cons, evalEntries, Action.bind_apply_ok hkey, Action.bind_apply_ok hmodel,
      Action.bind_apply_ok (ih htables)]
    rfl

/-- **The models are registered** under what their keys denote, and a later one takes the place of
an earlier one under the same key. -/
lemma exec_registry (m : Object.Machine) (h : ∀ t ∈ tables,
    c.work.globals.get? (countedName "" t.modelName) = some (.cls (.model t.modelName))) :
    exec m moduleFrame (registryStatement (countedName "") key tables) c =
      (.ok (moduleFrame, none), naming (c.withHeap (c.work.heap.push
        (.dict (registered (Entries.merge [] (keyed key tables))))))
          [(registryName, .dict c.work.heap.size)]) := by
  have hname : countedName "" registryName = registryName :=
    Object.countedName_eq (by decide) (by decide) ""
  have hdict : eval m moduleFrame
      (.dict (tables.map fun t => (.constant (.text (key t)), .name (countedName "" t.modelName))))
        c = (.ok (.dict c.work.heap.size), c.withHeap (c.work.heap.push
          (.dict (registered (Entries.merge [] (keyed key tables)))))) := by
    rw [eval, Action.bind_apply_ok (evalEntries_models m h),
      Action.bind_apply_ok (Object.heap_apply c)]
    have hnone : Entries.keys ([] : Entries String) = [] := rfl
    have hfold := foldl_putEntry c.work.heap (hnone ▸ List.nodup_nil) (keyed key tables)
    exact (congrArg (fun es => Object.newDict es c) hfold).trans (newDict_apply _ c)
  rw [registryStatement, hname]
  exact exec_assign hdict

/-- A model is found without an import if and only if it is the one that is known by the name of
the table. -/
lemma modelClass_iff (k : Connection) {s : Course State} :
    k.modelClass t s = (.ok t.modelName, s) ↔ s.models.get? t.name = some t.modelName := by
  have hcourse : (Action.course : Action State (Course State)) s = (.ok s, s) := rfl
  rw [Connection.modelClass, Action.bind_apply_ok hcourse]
  cases hfound : s.models.get? t.name with
  | some name =>
    change (Except.ok name, s) = (Except.ok t.modelName, s) ↔ _
    rw [Prod.mk.injEq, Except.ok.injEq, Option.some_inj, and_iff_left rfl]
  | none =>
    -- a model that is imported is known from then on
    refine iff_of_false (fun h => ?_) (by simp)
    dsimp only at h
    split_ifs at h
    · cases h
    · cases hmodule : k.modules.find t.modelModule with
      | error e =>
        rw [hmodule] at h
        cases h
      | ok classes =>
        have hcheck : (Action.check (.ok classes) : Action State (List String)) s =
            (.ok classes, s) := rfl
        rw [hmodule, Action.bind_apply_ok hcheck] at h
        split_ifs at h
        · have hmodels := congrArg (fun outcome => outcome.2.models.get? t.name) h
          change (s.models.put t.name t.modelName).get? t.name = s.models.get? t.name at hmodels
          rw [Entries.get?_put_self, hfound] at hmodels
          cases hmodels
        · cases h

/-- **Every model is found by the name of its table** if and only if every key is the name of its
table. -/
lemma registered_iff (htables : (tables.map Table.name).Nodup)
    (hmodels : (tables.map Table.modelName).Nodup) :
    (∀ t ∈ tables, (Entries.merge [] (keyed key tables)).get? t.name = some t.modelName) ↔
      ∀ t ∈ tables, key t = t.name := by
  have hget : ∀ name, (Entries.merge [] (keyed key tables)).get? name =
      Entries.get? (keyed key tables).reverse name := fun name => by
    rw [Entries.get?_merge]
    exact Option.or_none
  constructor
  · intro h t ht
    have hfound := h t ht
    rw [hget] at hfound
    obtain ⟨s, hs, heq⟩ := List.mem_map.1 (List.mem_reverse.1 (Entries.mem_of_get? hfound))
    obtain ⟨hkey, hmodel⟩ := Prod.mk.inj heq
    obtain rfl : s = t := List.inj_on_of_nodup_map hmodels hs ht hmodel
    exact hkey
  · intro h t ht
    have hkeyed : keyed key tables = tables.map fun t => (t.name, t.modelName) :=
      List.map_congr_left fun t ht => by rw [h t ht]
    have hnodup : ((keyed key tables).reverse.map Prod.fst).Nodup := by
      rw [List.map_reverse, List.nodup_reverse, hkeyed, List.map_map]
      exact htables
    rw [hget, Entries.get?_eq_some_iff hnodup, List.mem_reverse, hkeyed]
    exact List.mem_map_of_mem ht

end Registry

/-! ### Tables of a module -/

/-- Models are told apart by their names, since they are in snake case. -/
lemma nodup_importable {m : Module} (h : m.database.NamesApart) :
    (m.importable.map Table.name).Nodup ∧ (m.importable.map Table.modelName).Nodup := by
  have hsub : m.importable.Sublist m.database.tables := List.filter_sublist
  have hsnake : m.database.tables.map Table.snakeName =
      (m.database.tables.map Table.modelName).map Text.snake := List.map_map.symm
  have hmodels : (m.database.tables.map Table.modelName).Nodup := List.Nodup.of_map _ (hsnake ▸ h.2)
  exact ⟨h.1.sublist (hsub.map _), hmodels.sublist (hsub.map _)⟩

/-- A literal denotes one text. -/
lemma denotes_inj {literal a b : String} (ha : Denotes literal a) (hb : Denotes literal b) :
    a = b :=
  Source.Literal.Piece.text.inj (Except.ok.inj (ha.symm.trans hb))

/-- **Which names of tables can be written into a module.**  All literals with their names stand in
the text of the module, and a null character in one of them makes the text unreadable.  Every
literal ends where it was written to end, and every key among the models denotes the name of its
table, if and only if all names can be written as they are.  The last lines of the constants
register the models under what their keys denote: a connection finds each of them by its table, and
need not import it, if and only if every key denotes the name of its table. -/
theorem table_names_stand_iff {m : Module} (haccepted : m.database.IsAccepted)
    (hnames : ∀ t ∈ m.database.tables, t.name ≠ "") (g : Settings.Generation) :
    (∀ t ∈ m.database.tables, ∀ literal, m.Embeds t literal →
      literal.toList <:+: (m.text g).toList ∧
        ('\x00' ∈ literal.toList → Source.readModule (m.text g) =
          .error (.badArgument "source code string cannot contain null bytes"))) ∧
    ((∀ t ∈ m.database.tables, (∀ literal, m.Embeds t literal → Stands literal) ∧
        (t ∈ m.importable → Denotes (keyLiteral t) t.name)) ↔
      ∀ t ∈ m.database.tables, Writable t) ∧
    registryLines g.indent m.importable <:+ m.constantLines g ∧
    ∀ key : Table → String, (∀ t ∈ m.importable, Denotes (keyLiteral t) (key t)) →
      ∀ (n : Nat) (c : Course State), (∀ t ∈ m.importable,
          c.work.globals.get? (countedName "" t.modelName) = some (.cls (.model t.modelName))) →
        ∃ models d, exec (machine n) moduleFrame
            (registryStatement (countedName "") key m.importable) c = (.ok (moduleFrame, none), d) ∧
          d.work.globals.get? registryName = some models ∧
          ∀ k : Connection, (∀ t ∈ m.importable, ∀ s : Course State,
              s.models = Link.knownModels d.work.heap models →
                k.modelClass t s = (.ok t.modelName, s)) ↔
            ∀ t ∈ m.importable, Denotes (keyLiteral t) t.name := by
  refine ⟨fun t ht literal h => ?_, ?_, registryLines_suffix m g, ?_⟩
  · have hwithin := h.infix_text ht g
    exact ⟨hwithin, fun hnull => Source.readModule_null (hwithin.subset hnull)⟩
  · exact forall₂_congr fun t ht => stands_iff_writable ht (hnames t ht)
  · intro key hkey n c hmodels
    obtain ⟨hapart, hmodelsApart⟩ := nodup_importable haccepted.namesApart
    let known := Entries.merge [] (keyed key m.importable)
    let d := naming (c.withHeap (c.work.heap.push (.dict (registered known))))
      [(registryName, .dict c.work.heap.size)]
    have hknown : Link.knownModels d.work.heap (.dict c.work.heap.size) = known :=
      knownModels_registered Array.getElem?_push_size
    refine ⟨.dict c.work.heap.size, d, exec_registry (machine n) hmodels,
      Entries.get?_put_self _ _ _, fun k => ?_⟩
    have hfound : (∀ t ∈ m.importable, ∀ s : Course State,
        s.models = Link.knownModels d.work.heap (.dict c.work.heap.size) →
          k.modelClass t s = (.ok t.modelName, s)) ↔
        ∀ t ∈ m.importable, known.get? t.name = some t.modelName := by
      refine forall₂_congr fun t _ => ?_
      rw [hknown]
      constructor
      · exact fun h => (modelClass_iff k).1 (h { d with models := known } rfl)
      · exact fun h s hs => (modelClass_iff k).2 (hs ▸ h)
    rw [hfound, registered_iff hapart hmodelsApart]
    exact forall₂_congr fun t ht => ⟨fun h => h ▸ hkey t ht, denotes_inj (hkey t ht)⟩

namespace Escape

/-- A table with a backslash in its name, in front of digits for a letter. -/
def table : Table :=
  { Table.ofColumns "a\\x41" "User" [⟨"a", "a", .int, false, false, false, false, .none⟩] with
    modelModule := "models" }

/-- The database of this table. -/
def database : Database where
  package := "p"
  className := "D"
  tables := [table]

/-- The module of the table where its models are imported. -/
def start : Course State where
  work :=
    { world := ⟨[table], ⟨⟨[], none⟩, ⟨"2026-10-19", "00:00:00"⟩, []⟩⟩
      globals := [("User", .cls (.model "User"))] }

/-- A connection to the table. -/
def connection : Connection where
  tables := [table]
  hash := .null
  migrator := .error (.noModel "")
  ownsWorkers := false
  modules := []

end Escape

open Escape in
/-- **The key of a name with an escape in it denotes another name**, under which no connection looks
for the model. -/
theorem table_names_stand_iff_escape : database.IsAccepted ∧
    (∀ t ∈ database.tables, t.name ≠ "") ∧ ¬ Writable table ∧ Denotes (keyLiteral table) "aA" ∧
    ∃ models d, exec (machine 0) moduleFrame
        (registryStatement (countedName "") (fun _ => "aA") [table]) start =
          (.ok (moduleFrame, none), d) ∧
      ¬ ∀ s : Course State, s.models = Link.knownModels d.work.heap models →
        connection.modelClass table s = (.ok "User", s) := by
  have haccepted : database.IsAccepted :=
    .inl ⟨.text "p", .text "D", _, Database.ofTables_eq_ok_iff.2 ⟨rfl, rfl, rfl, by decide⟩⟩
  have hnames : ∀ t ∈ database.tables, t.name ≠ "" := List.forall_mem_singleton.2 (by decide)
  have hdenotes : Denotes (keyLiteral table) "aA" := rfl
  have hother : ¬ Denotes (keyLiteral table) table.name := fun h =>
    absurd (denotes_inj hdenotes h) (by decide)
  have himportable : (moduleOf database).importable = [table] := rfl
  obtain ⟨-, hwritable, -, hrun⟩ :=
    table_names_stand_iff (m := moduleOf database) haccepted hnames {}
  obtain ⟨models, d, hexec, -, hfound⟩ := hrun (fun _ => "aA")
    (List.forall_mem_singleton.2 hdenotes) 0 start (List.forall_mem_singleton.2 rfl)
  have hmem : table ∈ (moduleOf database).importable := List.mem_singleton.2 rfl
  refine ⟨haccepted, hnames, fun h => ?_, hdenotes, models, d, hexec, fun h => ?_⟩
  · exact hother ((hwritable.2 (List.forall_mem_singleton.2 h) table
      (List.mem_singleton.2 rfl)).2 hmem)
  · exact hother ((hfound connection).1 (List.forall_mem_singleton.2 h) table hmem)

end PgSchema.Codegen
