import Mathlib.Tactic.Lemma
import PgSchema.Course.Basic

/-!
Actions that have ended, taken apart.

An action that ended well went well in each of its parts, and each part began where the one before
it had ended.  A use of the pool ends in one of two ways (`lends`) and a transaction in one of four
(`ends`), and each tells all that is left behind.
-/

namespace PgSchema.Action

variable {σ α β : Type} {c d : Course σ}

lemma bind_apply_ok {x : Action σ α} {a : α} (h : x c = (.ok a, d)) (f : α → Action σ β) :
    (x >>= f) c = f a d := by
  simp only [Bind.bind, h]

lemma bind_apply_error {x : Action σ α} {e : Failure} (h : x c = (.error e, d))
    (f : α → Action σ β) : (x >>= f) c = (.error e, d) := by
  simp only [Bind.bind, h]

lemma bind_apply_congr {x y : Action σ α} (h : x c = y d) (f : α → Action σ β) :
    (x >>= f) c = (y >>= f) d := by
  simp only [Bind.bind, h]

lemma pure_bind (a : α) (f : α → Action σ β) : pure a >>= f = f a := rfl

lemma bind_pure (x : Action σ α) : (x >>= fun a => pure a) = x := by
  funext c
  rcases h : x c with ⟨e | a, d⟩
  · rw [bind_apply_error h]
  · rw [bind_apply_ok h]
    rfl

lemma bind_assoc {γ : Type} (x : Action σ α) (f : α → Action σ β) (g : β → Action σ γ) :
    x >>= f >>= g = x >>= fun a => f a >>= g := by
  funext c
  rcases h : x c with ⟨e | a, d⟩
  · rw [bind_apply_error h, bind_apply_error (bind_apply_error h f)]
  · rw [bind_apply_ok h]
    simp only [Bind.bind, h]

lemma bind_eq_ok {x : Action σ α} {f : α → Action σ β} {b : β} :
    (x >>= f) c = (.ok b, d) ↔ ∃ a e, x c = (.ok a, e) ∧ f a e = (.ok b, d) := by
  rcases hx : x c with ⟨failure | a, e⟩
  · rw [bind_apply_error hx]
    simp
  · rw [bind_apply_ok hx]
    constructor
    · exact fun h => ⟨a, e, rfl, h⟩
    · rintro ⟨_, _, h, h'⟩
      cases h
      exact h'

/-- Work on one item after the other that changes nothing. -/
lemma each_apply {f : α → Action σ β} {g : α → β} {l : List α}
    (hf : ∀ a ∈ l, f a c = (.ok (g a), c)) : each f l c = (.ok (l.map g), c) := by
  induction l with
  | nil => rfl
  | cons a l ih =>
    obtain ⟨ha, hl⟩ := List.forall_mem_cons.1 hf
    rw [each, bind_apply_ok ha, bind_apply_ok (ih hl)]
    rfl

lemma pure_eq_ok {a b : α} : (pure a : Action σ α) c = (.ok b, d) ↔ a = b ∧ c = d := by
  change (Except.ok a, c) = _ ↔ _
  simp

lemma check_eq_ok {x : Except Fault α} {a : α} : check x c = (.ok a, d) ↔ x = .ok a ∧ c = d := by
  cases x with
  | ok b => rw [check, pure_eq_ok, Except.ok.injEq]
  | error fault => simp [check, fail]

lemma fail_ne_ok {e : Failure} {a : α} : (fail e : Action σ α) c ≠ (.ok a, d) := by simp [fail]

lemma log_eq_ok {level : Log.Level} {channel : Log.Channel} {message : String} {u : Unit}
    (h : log level channel message c = (.ok u, d)) : d.store = c.store := by
  cases h
  rfl

lemma onStore_eq_ok {f : Store → Except Failure α × Store} {a : α} :
    onStore f c = (.ok a, d) ↔ ∃ s, f c.store = (.ok a, s) ∧ { c with store := s } = d := by
  constructor
  · intro h
    have hr : (f c.store).1 = .ok a := congrArg Prod.fst h
    exact ⟨(f c.store).2, Prod.ext hr rfl, congrArg Prod.snd h⟩
  · rintro ⟨s, h, rfl⟩
    rw [onStore, h]

lemma within_eq_ok {coordinate : Log.Coordinate} {value : String} {body : Action σ α} {a : α}
    (h : within coordinate value body c = (.ok a, d)) :
    ∃ b e, body b = (.ok a, e) ∧ b.store = c.store ∧ e.store = d.store := by
  obtain ⟨hr, hd⟩ := Prod.mk.injEq .. ▸ h
  exact ⟨_, _, Prod.ext hr rfl, rfl, hd ▸ rfl⟩

/-- **The ways in which a use of the pool ends**, by its outcome and the course behind it. -/
inductive Lends (body : Action σ α) (c : Course σ) : Except Failure α → Course σ → Prop
  /-- No connection is to be had. -/
  | refused {e : Failure} {s : Store}
      (hcheckout : c.store.signal .checkout Store.checkoutText = (.error e, s)) :
      Lends body c (.error e) { c with store := s }
  /-- The body runs on a connection, which is given back behind it. -/
  | lent {r : Except Failure α} {s : Store} {d : Course σ} {failure : Option Failure}
      (hcheckout : c.store.signal .checkout Store.checkoutText = (.ok (), s))
      (hbody : body { c with store := s } = (r, d)) :
      Lends body c r { d with store := d.store.record (.checkin failure) }

theorem lends {body : Action σ α} {r : Except Failure α} (h : pooled body c = (r, d)) :
    Lends body c r d := by
  unfold pooled at h
  rcases hcheckout : c.store.signal .checkout Store.checkoutText with ⟨e | u, s⟩
  · rw [hcheckout] at h
    cases h
    exact .refused hcheckout
  · rw [hcheckout] at h
    dsimp only at h
    rcases hbody : body { c with store := s } with ⟨r', d'⟩
    rw [hbody] at h
    cases h
    exact .lent hcheckout hbody

/-- The course in which the body of a transaction begins. -/
def begun (c : Course σ) (s : Store) : Course σ :=
  { c with store := { s with depth := c.store.depth + 1 } }

/-- The course behind a transaction that is taken back. -/
def takenBack (c d : Course σ) (s : Store) (e : Failure) : Course σ :=
  { d with store := ({ d.store with depth := c.store.depth }.record
      (.rollback c.store.depth e)).restore s }

/-- **The ways in which a transaction ends**, by its outcome and the course behind it. -/
inductive Ends (body : Action σ α) (c : Course σ) : Except Failure α → Course σ → Prop
  /-- It could not begin. -/
  | refused {e : Failure} {s : Store}
      (hbegin : c.store.signal (.begin c.store.depth) Store.beginText = (.error e, s)) :
      Ends body c (.error e) { c with store := s }
  /-- Its body failed. -/
  | failed {e : Failure} {s : Store} {d : Course σ}
      (hbegin : c.store.signal (.begin c.store.depth) Store.beginText = (.ok (), s))
      (hbody : body (begun c s) = (.error e, d)) :
      Ends body c (.error e) (takenBack c d s e)
  /-- Its end was not accepted. -/
  | uncommitted {a : α} {e : Failure} {s t : Store} {d : Course σ}
      (hbegin : c.store.signal (.begin c.store.depth) Store.beginText = (.ok (), s))
      (hbody : body (begun c s) = (.ok a, d))
      (hcommit : { d.store with depth := c.store.depth }.signal (.commit c.store.depth)
        Store.commitText = (.error e, t)) :
      Ends body c (.error e) { d with store := t.restore s }
  /-- It ended well. -/
  | committed {a : α} {s t : Store} {d : Course σ}
      (hbegin : c.store.signal (.begin c.store.depth) Store.beginText = (.ok (), s))
      (hbody : body (begun c s) = (.ok a, d))
      (hcommit : { d.store with depth := c.store.depth }.signal (.commit c.store.depth)
        Store.commitText = (.ok (), t)) :
      Ends body c (.ok a) { d with store := t }

theorem ends {body : Action σ α} {r : Except Failure α} (h : transaction body c = (r, d)) :
    Ends body c r d := by
  unfold transaction at h
  dsimp only at h
  rcases hbegin : c.store.signal (.begin c.store.depth) Store.beginText with ⟨e | u, s⟩
  · rw [hbegin] at h
    cases h
    exact Ends.refused hbegin
  · rw [hbegin] at h
    dsimp only at h
    rcases hbody : body (begun c s) with ⟨e | a, d'⟩
    · rw [begun] at hbody
      rw [hbody] at h
      cases h
      exact Ends.failed hbegin hbody
    · rw [begun] at hbody
      rw [hbody] at h
      dsimp only at h
      rcases hcommit : { d'.store with depth := c.store.depth }.signal (.commit c.store.depth)
        Store.commitText with ⟨e | v, t⟩
      · rw [hcommit] at h
        cases h
        exact Ends.uncommitted hbegin hbody hcommit
      · rw [hcommit] at h
        cases h
        exact Ends.committed hbegin hbody hcommit

/-- A transaction that ended well: it began, its body went well, and its end was accepted. -/
lemma transaction_eq_ok {body : Action σ α} {a : α} (h : transaction body c = (.ok a, d)) :
    ∃ s b e, c.store.signal (.begin c.store.depth) Store.beginText = (.ok (), s) ∧
      b.store = { s with depth := c.store.depth + 1 } ∧ body b = (.ok a, e) ∧
      { e.store with depth := c.store.depth }.signal (.commit c.store.depth) Store.commitText =
        (.ok (), d.store) := by
  cases ends h with
  | committed hbegin hbody hcommit => exact ⟨_, _, _, hbegin, rfl, hbody, hcommit⟩

end PgSchema.Action
