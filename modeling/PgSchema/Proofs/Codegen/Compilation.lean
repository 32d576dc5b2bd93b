import PgSchema.Codegen.Compilation
import PgSchema.Proofs.Settings.Defaults

/-!
Where the outcome of a compilation depends on the environment.

A compilation that is given no defaults loads them all, though it asks only for those of generated
text, which no variable sets.  So there is one outcome for each database (`outcomeOf`), and it is
reached from the environments from which the other defaults can be loaded too.  From any other the
compilation fails, as the loading does (`compile_start_eq_iff`).
-/

namespace PgSchema.Codegen

open Settings (Cache Defaults Sound)

/-- What a database is compiled to with the defaults of generated text as they are. -/
def outcomeOf (d : Database) : Compilation :=
  ⟨Fingerprint.ofDatabase d, moduleOf d, (moduleOf d).text {}⟩

variable (d : Database) (env env' : Environment)

/-- Nothing of the defaults that are loaded reaches the outcome, and a fault in loading them is a
fault of the compilation. -/
lemma compile_start :
    compile (.start env) d none = (Defaults.load env).map fun _ => outcomeOf d := by
  cases hload : Defaults.load env with
  | error e =>
    have hget : (Cache.start env).get.1 = .error e := by
      simp only [Cache.get, Cache.start, hload]
    simp only [compile, hget]
    rfl
  | ok loaded =>
    have hget : (Cache.start env).get.1 = .ok loaded := by
      simp only [Cache.get, Cache.start, hload]
    have hgeneration := Defaults.generation_of_load hload
    simp only [compile, hget]
    change Except.ok (Compilation.mk _ _ ((moduleOf d).text loaded.generation)) = _
    rw [hgeneration]
    rfl

/-- **One outcome for each database**, from every environment from which the defaults can be loaded
and from no other.  Two environments lead to the same end just if the defaults can be loaded from
both, or neither can be loaded from and the faults are the same. -/
theorem compile_start_eq_iff :
    (compile (.start env) d none = .ok (outcomeOf d) ↔ Sound env) ∧
    (compile (.start env) d none = compile (.start env') d none ↔
      Sound env ∧ Sound env' ∨
        ∃ fault, Defaults.load env = .error fault ∧ Defaults.load env' = .error fault) := by
  rw [compile_start, compile_start, ← Defaults.exists_load_iff, ← Defaults.exists_load_iff]
  constructor
  · cases Defaults.load env with
    | error e => exact iff_of_false nofun fun ⟨_, h⟩ => nomatch h
    | ok loaded => exact iff_of_true rfl ⟨loaded, rfl⟩
  · cases Defaults.load env with
    | error e =>
      cases Defaults.load env' with
      | error e' =>
        constructor
        · intro h
          obtain rfl := Except.error.inj h
          exact Or.inr ⟨e, rfl, rfl⟩
        · rintro (⟨⟨_, h⟩, -⟩ | ⟨fault, h, h'⟩)
          · cases h
          · rw [h, h']
      | ok loaded' =>
        refine iff_of_false nofun ?_
        rintro (⟨⟨_, h⟩, -⟩ | ⟨_, -, h⟩) <;> cases h
    | ok loaded =>
      cases Defaults.load env' with
      | error e' =>
        refine iff_of_false nofun ?_
        rintro (⟨-, _, h⟩ | ⟨_, h, -⟩) <;> cases h
      | ok loaded' => exact iff_of_true rfl (Or.inl ⟨⟨loaded, rfl⟩, loaded', rfl⟩)

/-- A database without tables. -/
def bare : Database := ⟨"scores", "Scores", []⟩

/-- A bound of the pool that is no numeral makes the difference, though no pool is compiled. -/
theorem compile_start_eq_iff_unreadable :
    compile (.start []) bare none = .ok (outcomeOf bare) ∧
      compile (.start []) bare none ≠ compile (.start [("POOL_MIN_SIZE", "many")]) bare none := by
  obtain ⟨hone, hsame⟩ := compile_start_eq_iff bare [] [("POOL_MIN_SIZE", "many")]
  have hplain : Defaults.load [] = .ok {} := by rfl
  have hmany : Defaults.load [("POOL_MIN_SIZE", "many")] = .error (.notNumeral "many") := by rfl
  refine ⟨hone.2 (Defaults.exists_load_iff.1 ⟨_, hplain⟩), fun heq => ?_⟩
  rcases hsame.1 heq with ⟨-, h⟩ | ⟨fault, h, -⟩
  · obtain ⟨loaded, hloaded⟩ := Defaults.exists_load_iff.2 h
    cases hmany.symm.trans hloaded
  · cases hplain.symm.trans h

end PgSchema.Codegen
