import Mathlib.Data.List.Infix
import Mathlib.Data.List.Nodup
import PgSchema.Codegen.Access
import PgSchema.Proofs.Text.Basic
import PgSchema.Source.Syntax

/-!
The names of constants.

A constant is called like the model of its table in capitals, with an ending of its own.  The name
counts in its normal form, where the ending stays as it is (`constantIn_top`), so two constants are
one if and only if their models are in capitals.  Of models that are told apart in snake case this
is so of those whose names are made of basic characters (`nodup_capitals_of_basic`).  Inside a class
a name with two low lines in front is another one than outside.
-/

namespace PgSchema.Codegen

open Text.Normal (basicCount)

/-- The end of the names of constants. -/
def constantEnd : String := "_SCHEMA"

/-- The name by which a class, or the module itself, knows the constant of a table. -/
def constantIn (owner : String) (t : Table) : String := Source.countedName owner (schemaConstant t)

/-- The model of a table in capitals, as names count. -/
def capitals (t : Table) : String := Text.Normal.form (Text.upper t.snakeName)

lemma form_schemaConstant (t : Table) :
    Text.Normal.form (schemaConstant t) = capitals t ++ constantEnd := by
  have hbasic : constantEnd.toList.all (fun c => c.toNat < basicCount) = true := by decide
  exact Text.Normal.form_append _ fun c hc => of_decide_eq_true (List.all_eq_true.1 hbasic c hc)

/-- The module knows a constant by its own name. -/
lemma constantIn_top (t : Table) : constantIn "" t = capitals t ++ constantEnd := by
  rw [constantIn, Source.countedName, form_schemaConstant, Source.privateName]
  exact if_neg fun h => h.2.2.2 rfl

/-- **Constants have the names of constants**, wherever they are named. -/
lemma suffix_constantIn (owner : String) (t : Table) :
    constantEnd.toList <:+ (constantIn owner t).toList := by
  have htop : constantEnd.toList <:+ (capitals t ++ constantEnd).toList := by
    rw [String.toList_append]
    exact List.suffix_append _ _
  rw [constantIn, Source.countedName, form_schemaConstant, Source.privateName]
  split_ifs
  · rw [String.toList_append]
    exact htop.trans (List.suffix_append _ _)
  · exact htop

/-- A name that does not end like one is not that of a constant. -/
lemma constantIn_ne {owner name : String} {t : Table}
    (h : ¬ constantEnd.toList <:+ name.toList) : constantIn owner t ≠ name :=
  fun heq => h (heq ▸ suffix_constantIn owner t)

/-- Constants are different if and only if their models are in capitals. -/
lemma nodup_constantIn_iff {tables : List Table} :
    (tables.map (constantIn "")).Nodup ↔ (tables.map capitals).Nodup := by
  have hmap : tables.map (constantIn "") = (tables.map capitals).map (· ++ constantEnd) := by
    rw [List.map_map]
    exact List.map_congr_left fun t _ => constantIn_top t
  rw [hmap]
  exact List.nodup_map_iff fun _ _ h => (String.append_left_inj _).1 h

/-- The same of constants as they are written. -/
lemma nodup_schemaConstant_iff {tables : List Table} :
    (tables.map schemaConstant).Nodup ↔ (tables.map fun t => Text.upper t.snakeName).Nodup := by
  have hmap : tables.map schemaConstant =
      (tables.map fun t => Text.upper t.snakeName).map (· ++ constantEnd) := by
    rw [List.map_map]
    rfl
  rw [hmap]
  exact List.nodup_map_iff fun _ _ h => (String.append_left_inj _).1 h

/-- **Constants of basic names are different**, if the models are in snake case. -/
lemma nodup_capitals_of_basic {tables : List Table}
    (hbasic : ∀ t ∈ tables, ∀ c ∈ t.modelName.toList, c.toNat < basicCount)
    (h : (tables.map Table.snakeName).Nodup) : (tables.map capitals).Nodup := by
  have hsmall : ∀ t ∈ tables, ∀ c ∈ t.snakeName.toList, Text.IsSmall c :=
    fun t ht => Text.isSmall_of_mem_snake (hbasic t ht)
  have hcapitals : ∀ t ∈ tables, capitals t = Text.upper t.snakeName := by
    intro t ht
    refine Text.Normal.form_of_basic fun c hc => ?_
    rw [Text.toList_upper (hsmall t ht)] at hc
    obtain ⟨d, hd, rfl⟩ := List.mem_map.1 hc
    exact (hsmall t ht d hd).toUpper_lt
  rw [List.Nodup, List.pairwise_map] at h ⊢
  refine h.imp_of_mem fun {s t} hs ht hne heq => hne ?_
  rw [hcapitals s hs, hcapitals t ht] at heq
  exact Text.upper_inj (hsmall s hs) (hsmall t ht) heq

end PgSchema.Codegen
