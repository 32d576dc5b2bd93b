import Mathlib.Tactic.Lemma
import PgSchema.Codegen.Condition

/-!
What the conditions of a table test.

Every condition that is derived for a table makes one test of one column (`exists_test`): it
compares the column with a value, asks whether there is one, or looks for it in a collection.
-/

namespace PgSchema.Codegen

open Identifier (quote)

/-- What is tested of a column. -/
inductive Test where
  | compare (k : Comparison)
  | absent (negated : Bool)
  | among (negated : Bool)
  deriving DecidableEq, Repr

namespace Test

/-- What stands behind the column in a question for its absence. -/
def absence (negated : Bool) : String := if negated then " IS NOT NULL" else " IS NULL"

/-- The statement of a condition that makes the test. -/
def statement (c : Column) : Test → Statement
  | compare k =>
    .condition (quote c.columnName ++ " " ++ k.operator ++ " %s") (some (parameterName c))
  | absent negated => .condition (quote c.columnName ++ absence negated) none
  | among negated => .membership negated (quote c.columnName)

/-- The kind of the conditions that make the test. -/
def kind : Test → OperationKind
  | compare k => k.kind
  | absent negated => if negated then .isNotNull else .isNull
  | among negated => if negated then .notMember else .member

/-- Every test is made by conditions. -/
lemma kind_mem (test : Test) : test.kind ∈ OperationKind.conditions := by
  cases test with
  | compare k => cases k <;> decide
  | absent negated | among negated => cases negated <;> decide

lemma kind_ne_find (test : Test) : test.kind ≠ .find := by
  cases test with
  | compare k => cases k <;> decide
  | absent negated | among negated => cases negated <;> decide

end Test

/-- **A condition makes a test of a column.**  It is of the kind of the test and is called by the
column and the kind, unless it looks a row up by its key. -/
structure Operation.Makes (op : Operation) (c : Column) (test : Test) : Prop where
  column : op.column = some c.name
  body : op.body = [test.statement c]
  named : op.kind = test.kind ∧ op.name = c.name ++ "_" ++ test.kind.text ∨
    op.kind = .find ∧ op.name = "find" ∧ test = .compare .eq

/-- The look-up by a key compares for equality. -/
lemma body_findBy (target : String) (c : Column) :
    (findBy target c).body = [(Test.compare .eq).statement c] := by
  have htext : quote c.columnName ++ " = %s" = quote c.columnName ++ " " ++ "=" ++ " %s" := by
    rw [String.append_assoc, String.append_assoc]
    rfl
  exact congrArg (fun fragment => [Statement.condition fragment (some (parameterName c))]) htext

/-- A condition of a column makes a test of it.  Only a key is looked up. -/
lemma makes_of_mem {target : String} {c : Column} {op : Operation}
    (hop : op ∈ columnConditions target c) :
    (∃ test, op.Makes c test) ∧ (op.kind = .find ↔ c.primaryKey = true) := by
  unfold columnConditions at hop
  split at hop
  case isTrue hkey =>
    obtain rfl := List.mem_singleton.1 hop
    exact ⟨⟨.compare .eq, rfl, body_findBy _ c, .inr ⟨rfl, rfl, rfl⟩⟩, iff_of_true rfl hkey⟩
  case isFalse hkey =>
    have hnamed : ∀ test : Test, op.column = some c.name → op.body = [test.statement c] →
        op.kind = test.kind → op.name = c.name ++ "_" ++ test.kind.text →
        (∃ test, op.Makes c test) ∧ (op.kind = .find ↔ c.primaryKey = true) :=
      fun test hcolumn hbody hkind hname => ⟨⟨test, hcolumn, hbody, .inl ⟨hkind, hname⟩⟩,
        iff_of_false (hkind ▸ test.kind_ne_find) hkey⟩
    simp only [List.mem_append] at hop
    rcases hop with (hop | hop) | hop
    · split at hop
      · simp only [List.mem_cons, List.not_mem_nil, or_false] at hop
        rcases hop with rfl | rfl
        · exact hnamed (.absent false) rfl rfl rfl rfl
        · exact hnamed (.absent true) rfl rfl rfl rfl
      · exact absurd hop List.not_mem_nil
    · simp only [List.mem_cons, List.not_mem_nil, or_false] at hop
      rcases hop with rfl | rfl | rfl | rfl
      · exact hnamed (.compare .eq) rfl rfl rfl rfl
      · exact hnamed (.compare .notEq) rfl rfl rfl rfl
      · exact hnamed (.among false) rfl rfl rfl rfl
      · exact hnamed (.among true) rfl rfl rfl rfl
    · split at hop
      · obtain ⟨k, -, rfl⟩ := List.mem_map.1 hop
        exact hnamed (.compare k) rfl rfl rfl rfl
      · exact absurd hop List.not_mem_nil

/-- **Every condition makes one test of one column.** -/
theorem exists_test {t : Table} {target : String} {op : Operation}
    (hop : op ∈ tableConditions t target) : ∃ c ∈ t.columns, ∃ test, op.Makes c test := by
  obtain ⟨c, hc, hop⟩ := List.mem_flatMap.1 hop
  exact ⟨c, (List.mem_filter.1 hc).1, (makes_of_mem hop).1⟩

end PgSchema.Codegen
