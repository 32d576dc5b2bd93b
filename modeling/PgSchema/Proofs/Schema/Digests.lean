import Mathlib.Data.List.Forall2
import PgSchema.Proofs.Digest.Sha256
import PgSchema.Schema.Fingerprint

/-!
Digests that are continued in any order.

A digest lets only copies of its hash change, so that work with digests leaves the hashes that there
are as they are, and puts new ones behind them.  So a digest holds the statements on its own path
from the start, and it goes on holding them, whatever is made of it or of other digests meanwhile
(`adds_run`).

It does not matter either where the statements are parted.  The fingerprint of a database takes them
table by table, and is that of all its statements in a row (`Database.fingerprint_eq_flatMap`).
-/

namespace PgSchema

open Digest (Sha256 hex hex_eq sha256 upperHex)
open Text (utf8)

namespace SchemaDigest

/-! ### Single digests -/

/-- A digest holds bytes: its hash is one that there is, and has taken them. -/
def Holds (hashes : Hashes) (d : SchemaDigest) (bytes : List UInt8) : Prop :=
  hashes[d.place]? = some (Sha256.empty.absorb bytes)

variable {hashes hashes' : Hashes} {d : SchemaDigest} {bytes : List UInt8}

/-- **New hashes change nothing** for a digest that was there before them. -/
lemma Holds.later (h : Holds hashes d bytes) (hnew : hashes <+: hashes') :
    Holds hashes' d bytes := by
  obtain ⟨new, rfl⟩ := hnew
  obtain ⟨hplace, -⟩ := List.getElem?_eq_some_iff.1 h
  rw [Holds, List.getElem?_append_left hplace]
  exact h

lemma holds_new (hashes : Hashes) (bytes : List UInt8) :
    Holds (hashes ++ [Sha256.empty.absorb bytes]) ⟨hashes.length⟩ bytes := by
  rw [Holds, List.getElem?_concat_length]

lemma copy_apply (h : Holds hashes d bytes) : Hashing.copy d.place hashes =
    (hashes.length, hashes ++ [Sha256.empty.absorb bytes]) := by
  have hread : hashes.getD d.place Sha256.empty = Sha256.empty.absorb bytes := by
    rw [List.getD_eq_getElem?_getD, h, Option.getD_some]
  change (hashes.length, hashes ++ [hashes.getD d.place Sha256.empty]) = _
  rw [hread]

/-- The hash that takes the statement is the new one, and no other. -/
lemma update_apply (h : Holds hashes d bytes) (statement : String) : d.update statement hashes =
    (⟨hashes.length⟩, hashes ++ [Sha256.empty.absorb (bytes ++ utf8 statement)]) := by
  have hcopy : d.update statement hashes = (⟨(Hashing.copy d.place hashes).1⟩,
      (Hashing.copy d.place hashes).2.modify (Hashing.copy d.place hashes).1
        (Sha256.absorb · (utf8 statement))) := rfl
  rw [hcopy, copy_apply h]
  simp [List.modify_eq_take_cons_drop, Sha256.absorb_append]

/-- **What is told of a digest** is the hash of the bytes that it holds. -/
lemma text_apply (h : Holds hashes d bytes) :
    d.text hashes = (upperHex (sha256 bytes), hashes ++ [Sha256.empty.absorb bytes]) := by
  have hcopy : d.text hashes = (hex (((Hashing.copy d.place hashes).2.getD
      (Hashing.copy d.place hashes).1 Sha256.empty).digest), (Hashing.copy d.place hashes).2) := rfl
  rw [hcopy, copy_apply h]
  simp [hex_eq, Sha256.digest_absorb_empty]

/-- The bytes of further statements come behind those that a digest holds. -/
lemma holds_updateAll (h : Holds hashes d bytes) (statements : List String) :
    hashes <+: (d.updateAll statements hashes).2 ∧
      Holds (d.updateAll statements hashes).2 (d.updateAll statements hashes).1
        (bytes ++ statements.flatMap utf8) := by
  induction statements generalizing hashes d bytes with
  | nil => exact ⟨List.prefix_rfl, by rwa [List.flatMap_nil, List.append_nil]⟩
  | cons s statements ih =>
    have hcons : d.updateAll (s :: statements) hashes =
        (d.update s hashes).1.updateAll statements (d.update s hashes).2 := rfl
    rw [hcons, update_apply h, List.flatMap_cons, ← List.append_assoc]
    obtain ⟨hkept, hholds⟩ := ih (holds_new hashes (bytes ++ utf8 s))
    exact ⟨(List.prefix_append _ _).trans hkept, hholds⟩

/-! ### Where statements are parted -/

lemma updateAll_append (d : SchemaDigest) (statements more : List String) :
    d.updateAll (statements ++ more) = d.updateAll statements >>= fun e => e.updateAll more :=
  List.foldlM_append

/-- Statements that are taken table by table are taken one after the other. -/
lemma foldlM_updateAll (tables : List Table) (d : SchemaDigest) :
    tables.foldlM (fun e t => e.updateAll t.statements) d =
      d.updateAll (tables.flatMap Table.statements) := by
  induction tables generalizing d with
  | nil => rfl
  | cons t tables ih =>
    rw [List.foldlM_cons, List.flatMap_cons, updateAll_append]
    exact congrArg _ (funext ih)

/-! ### Many digests -/

/-- A step with digests that go by the numbers of those before them: one more is started, one is
continued, or the fingerprint of one is taken. -/
inductive Step where
  | start
  | update (source : Nat) (statement : String)
  | updateAll (source : Nat) (statements : List String)
  | text (source : Nat)

namespace Step

/-- What is made of the digest of a number, if there is one. -/
def continued (made : List SchemaDigest) (source : Nat)
    (f : SchemaDigest → Hashing SchemaDigest) : Hashing (List SchemaDigest) :=
  match made[source]? with
  | none => return made
  | some d => return made ++ [← f d]

/-- The digests after a step.  Those that there are stay, and a new one comes last. -/
def run (made : List SchemaDigest) : Step → Hashing (List SchemaDigest)
  | start => return made ++ [← SchemaDigest.start]
  | update source statement => continued made source (·.update statement)
  | updateAll source statements => continued made source (·.updateAll statements)
  | text source => do
    let _ ← (made[source]?).mapM SchemaDigest.text
    return made

/-- The paths of digests after a step: the statements that each of them was given since the start,
its own or before it was forked. -/
def extend (paths : List (List String)) : Step → List (List String)
  | start => paths ++ [[]]
  | update source statement => paths ++ (paths[source]?).toList.map (· ++ [statement])
  | updateAll source statements => paths ++ (paths[source]?).toList.map (· ++ statements)
  | text _ => paths

end Step

/-- The digests after steps. -/
def run (steps : List Step) (made : List SchemaDigest) : Hashing (List SchemaDigest) :=
  steps.foldlM Step.run made

/-- The paths of digests after steps. -/
def paths (steps : List Step) (before : List (List String)) : List (List String) :=
  steps.foldl Step.extend before

/-- **Digests reflect their paths**: each holds the statements on its own one. -/
def Reflects (hashes : Hashes) (made : List SchemaDigest) (paths : List (List String)) : Prop :=
  List.Forall₂ (fun d path => Holds hashes d (path.flatMap utf8)) made paths

variable {made : List SchemaDigest} {before : List (List String)}

lemma Reflects.later (h : Reflects hashes made before) (hnew : hashes <+: hashes') :
    Reflects hashes' made before :=
  h.imp fun _ _ hd => hd.later hnew

/-- The digest and the path of a number, if it is one. -/
lemma Reflects.getElem? (h : Reflects hashes made before) (i : Nat) :
    made[i]? = none ∧ before[i]? = none ∨
      ∃ d path, made[i]? = some d ∧ before[i]? = some path ∧ Holds hashes d (path.flatMap utf8) := by
  induction h generalizing i with
  | nil => exact Or.inl ⟨rfl, rfl⟩
  | cons hd _ ih =>
    cases i with
    | zero => exact Or.inr ⟨_, _, rfl, rfl, hd⟩
    | succ i => exact ih i

/-- **Work that only adds to what there is**: the hashes and the digests stay as they are, and the
digests that there are in the end reflect their paths. -/
structure Adds (x : Hashing (List SchemaDigest)) (hashes : Hashes) (made : List SchemaDigest)
    (after : List (List String)) : Prop where
  hashes_kept : hashes <+: (x hashes).2
  made_kept : made <+: (x hashes).1
  reflects : Reflects (x hashes).2 (x hashes).1 after

lemma adds_continued (h : Reflects hashes made before) (source : Nat)
    {f : SchemaDigest → Hashing SchemaDigest} {statements : List String}
    (hf : ∀ d bytes, Holds hashes d bytes → hashes <+: (f d hashes).2 ∧
      Holds (f d hashes).2 (f d hashes).1 (bytes ++ statements.flatMap utf8)) :
    Adds (Step.continued made source f) hashes made
      (before ++ (before[source]?).toList.map (· ++ statements)) := by
  unfold Step.continued
  rcases h.getElem? source with ⟨hmade, hbefore⟩ | ⟨d, path, hmade, hbefore, hholds⟩
  · rw [hmade, hbefore, Option.toList_none, List.map_nil, List.append_nil]
    exact ⟨List.prefix_rfl, List.prefix_rfl, h⟩
  · rw [hmade, hbefore]
    obtain ⟨hnew, hnext⟩ := hf d _ hholds
    rw [← List.flatMap_append] at hnext
    exact ⟨hnew, List.prefix_append _ _, List.rel_append (h.later hnew) (.cons hnext .nil)⟩

/-- **One step**, by its kinds. -/
lemma adds_step (h : Reflects hashes made before) (step : Step) :
    Adds (step.run made) hashes made (step.extend before) := by
  cases step with
  | start =>
    have hnew : hashes <+: hashes ++ [Sha256.empty.absorb []] := List.prefix_append _ _
    exact ⟨hnew, List.prefix_append _ _,
      List.rel_append (h.later hnew) (.cons (holds_new hashes []) .nil)⟩
  | update source statement =>
    refine adds_continued h source fun d bytes hd => ?_
    rw [update_apply hd, List.flatMap_singleton]
    exact ⟨List.prefix_append _ _, holds_new _ _⟩
  | updateAll source statements =>
    exact adds_continued h source fun d bytes hd => holds_updateAll hd statements
  | text source =>
    rw [Step.run]
    rcases h.getElem? source with ⟨hmade, -⟩ | ⟨d, path, hmade, -, hholds⟩
    · rw [hmade]
      exact ⟨List.prefix_rfl, List.prefix_rfl, h⟩
    · rw [hmade]
      have hnew : hashes <+: (d.text hashes).2 := by
        rw [text_apply hholds]
        exact List.prefix_append _ _
      exact ⟨hnew, List.prefix_rfl, h.later hnew⟩

/-- **Any steps**, by induction on them: what there is stays as it is, and digests go on reflecting
their paths. -/
theorem adds_run (h : Reflects hashes made before) (steps : List Step) :
    Adds (run steps made) hashes made (paths steps before) := by
  induction steps generalizing hashes made before with
  | nil => exact ⟨List.prefix_rfl, List.prefix_rfl, h⟩
  | cons step steps ih =>
    obtain ⟨hhashes, hmade, hreflects⟩ := adds_step h step
    obtain ⟨hhashes', hmade', hreflects'⟩ := ih hreflects
    exact ⟨hhashes.trans hhashes', hmade.trans hmade', hreflects'⟩

example : paths [.start, .update 0 "a", .update 1 "b", .updateAll 1 ["c", "d"], .text 1] [] =
    [[], ["a"], ["a", "b"], ["a", "c", "d"]] := rfl

lemma run_append (past later : List Step) (made : List SchemaDigest) (hashes : Hashes) :
    run (past ++ later) made hashes =
      run later (run past made hashes).1 (run past made hashes).2 := by
  rw [run, List.foldlM_append]
  rfl

/-- What is told of digests that reflect their paths. -/
lemma Reflects.texts (h : Reflects hashes made before) :
    List.Forall₂ (fun d path => (d.text hashes).1 = upperHex (sha256 (path.flatMap utf8)))
      made before :=
  h.imp fun _ _ hd => by rw [text_apply hd]

/-- What is told of a digest stays the same behind new hashes. -/
lemma Reflects.text_later (h : Reflects hashes made before) (hnew : hashes <+: hashes')
    (hd : d ∈ made) : (d.text hashes').1 = (d.text hashes).1 := by
  obtain ⟨i, hi⟩ := List.mem_iff_getElem?.1 hd
  rcases h.getElem? i with ⟨hmade, -⟩ | ⟨e, path, hmade, -, hholds⟩
  · rw [hmade] at hi
    cases hi
  · rw [hmade] at hi
    cases hi
    rw [text_apply hholds, text_apply (hholds.later hnew)]

end SchemaDigest

/-! ### Fingerprints -/

/-- The fingerprint of statements is the hash of their bytes. -/
theorem fingerprint_eq_upperHex (statements : List String) :
    fingerprint statements = upperHex (sha256 (statements.flatMap utf8)) := by
  have hstart : SchemaDigest.Holds (SchemaDigest.start []).2 (SchemaDigest.start []).1 [] := rfl
  have hlast := (SchemaDigest.holds_updateAll hstart statements).2
  exact congrArg Prod.fst (SchemaDigest.text_apply hlast)

/-- The fingerprint of a database is that of all its statements. -/
theorem Database.fingerprint_eq_flatMap (d : Database) :
    d.fingerprint = PgSchema.fingerprint (d.tables.flatMap Table.statements) := by
  unfold fingerprint PgSchema.fingerprint
  simp only [SchemaDigest.foldlM_updateAll]

end PgSchema
