import Mathlib.Tactic.Lemma

/-!
Texts that can be read back from the front of a longer text.

`Shows text next key` says that the text of a value shows its key, and where it ends, whatever
admissible text comes behind it.  Parts that are read back one after the other are read back
together (`Shows.append`), and so is a row of parts, with or without a separator
(`Shows.intercalate`, `Shows.flatMap`).
-/

namespace PgSchema.Text

/-- **The text of a value shows its key**, and where it ends, before any text that may come next. -/
def Shows {α γ : Type} (text : α → List Char) (next : List Char → Prop) (key : α → γ) : Prop :=
  ∀ ⦃a b : α⦄ ⦃x y : List Char⦄, next x → next y → text a ++ x = text b ++ y → key a = key b ∧ x = y

/-- A text begins with a character of a class. -/
def Starts (cs x : List Char) : Prop := ∃ c ∈ cs, x.head? = some c

lemma Starts.cons {c : Char} {cs : List Char} (h : c ∈ cs) (x : List Char) : Starts cs (c :: x) :=
  ⟨c, h, rfl⟩

lemma Starts.disjoint {cs ds x : List Char} (h : ∀ c ∈ cs, c ∉ ds) (hx : Starts cs x) :
    ¬ Starts ds x := by
  rintro ⟨d, hd, e⟩
  obtain ⟨c, hc, e'⟩ := hx
  rw [e'] at e
  exact h c hc (Option.some.inj e ▸ hd)

namespace Shows

variable {α β γ δ : Type} {text text' : α → List Char} {next next' : List Char → Prop}
  {key : α → γ} {key' : α → δ}

lemma comap (h : Shows text next key) (g : β → α) :
    Shows (fun b => text (g b)) next fun b => key (g b) :=
  fun _ _ _ _ hx hy e => h hx hy e

lemma map (h : Shows text next key) (g : γ → δ) : Shows text next fun a => g (key a) := by
  intro a b x y hx hy e
  obtain ⟨hk, hxy⟩ := h hx hy e
  exact ⟨congrArg g hk, hxy⟩

/-- What is read back is the text itself, too. -/
lemma withText (h : Shows text next key) : Shows text next fun a => (text a, key a) := by
  intro a b x y hx hy e
  obtain ⟨hk, rfl⟩ := h hx hy e
  exact ⟨Prod.ext (List.append_cancel_right e) hk, rfl⟩

lemma append (h : Shows text next key) (h' : Shows text' next' key')
    (hn : ∀ a x, next' x → next (text' a ++ x)) :
    Shows (fun a => text a ++ text' a) next' fun a => (key a, key' a) := by
  intro a b x y hx hy e
  rw [List.append_assoc, List.append_assoc] at e
  obtain ⟨hk, e'⟩ := h (hn a x hx) (hn b y hy) e
  obtain ⟨hk', hxy⟩ := h' hx hy e'
  exact ⟨Prod.ext hk hk', hxy⟩

/-- The same text in front of every text. -/
lemma prepend (h : Shows text next key) (w : List Char) :
    Shows (fun a => w ++ text a) next key := by
  intro a b x y hx hy e
  rw [List.append_assoc, List.append_assoc] at e
  exact h hx hy (List.append_cancel_left e)

/-- The same text behind every text. -/
lemma behind (h : Shows text next key) {w : List Char} (hn : ∀ x, next' x → next (w ++ x)) :
    Shows (fun a => text a ++ w) next' key := by
  intro a b x y hx hy e
  rw [List.append_assoc, List.append_assoc] at e
  obtain ⟨hk, e'⟩ := h (hn x hx) (hn y hy) e
  exact ⟨hk, List.append_cancel_left e'⟩

/-- Texts of which none begins another are read back before any text. -/
lemma of_front (h : ∀ a b, text a <+: text b → text a = text b) :
    Shows text (fun _ => True) text := by
  intro a b x y _ _ e
  have hab : text a = text b := by
    rcases List.prefix_or_prefix_of_prefix ⟨x, e⟩ (List.prefix_append (text b) y) with hp | hp
    · exact h a b hp
    · exact (h b a hp).symm
  rw [hab] at e
  exact ⟨hab, List.append_cancel_left e⟩

/-- **A row of texts is read back**, if the text behind the row cannot begin a further one. -/
theorem flatMap (h : Shows text next key) (start : List Char → Prop)
    (hstart : ∀ a x, start (text a ++ x)) (hnext : ∀ x, start x ∨ next' x → next x)
    (hend : ∀ x, next' x → ¬ start x) :
    Shows (fun l : List α => l.flatMap text) next' fun l => l.map key := by
  suffices hs : ∀ (l m : List α) (x y : List Char), next' x → next' y →
      l.flatMap text ++ x = m.flatMap text ++ y → l.map key = m.map key ∧ x = y from
    fun l m x y hx hy e => hs l m x y hx hy e
  intro l
  induction l with
  | nil =>
    intro m x y hx hy e
    cases m with
    | nil => exact ⟨rfl, e⟩
    | cons b m =>
      rw [List.flatMap_nil, List.nil_append, List.flatMap_cons, List.append_assoc] at e
      exact absurd (e ▸ hstart b _) (hend x hx)
  | cons a l ih =>
    intro m x y hx hy e
    cases m with
    | nil =>
      rw [List.flatMap_nil, List.nil_append, List.flatMap_cons, List.append_assoc] at e
      exact absurd (e ▸ hstart a _) (hend y hy)
    | cons b m =>
      -- what comes behind the first text is either a further one or the end of the row
      have hrest : ∀ (k : List α) (z : List Char), next' z → next (k.flatMap text ++ z) := by
        intro k z hz
        cases k with
        | nil => exact hnext _ (Or.inr hz)
        | cons c k =>
          rw [List.flatMap_cons, List.append_assoc]
          exact hnext _ (Or.inl (hstart c _))
      rw [List.flatMap_cons, List.flatMap_cons, List.append_assoc, List.append_assoc] at e
      obtain ⟨hk, e'⟩ := h (hrest l x hx) (hrest m y hy) e
      obtain ⟨hks, hxy⟩ := ih m x y hx hy e'
      exact ⟨List.cons_eq_cons.2 ⟨hk, hks⟩, hxy⟩

end Shows

/-! ### Rows with a separator -/

/-- Every item of a row has its place in the text. -/
lemma length_le_flatMap {α : Type} {f : α → List Char} (h : ∀ a, f a ≠ []) (l : List α) :
    l.length ≤ (l.flatMap f).length := by
  induction l with
  | nil => simp
  | cons a l ih =>
    have hpos : 0 < (f a).length := List.length_pos_iff.2 (h a)
    rw [List.flatMap_cons, List.length_append, List.length_cons]
    omega

lemma intercalate_cons {α : Type} (sep a : List α) (l : List (List α)) :
    sep.intercalate (a :: l) = a ++ l.flatMap (sep ++ ·) := by
  induction l generalizing a with
  | nil => simp
  | cons b l ih => rw [List.intercalate_cons_cons, ih b, List.flatMap_cons, List.append_assoc,
      List.append_assoc]

/-- **A row of texts with a separator is read back**, if the text behind the row begins neither as a
separator nor as one of the texts. -/
theorem Shows.intercalate {α γ : Type} {text : α → List Char} {next next' : List Char → Prop}
    {key : α → γ} {sep : List Char} (h : Shows text next key) (hsep : ∀ x, next (sep ++ x))
    (hnext : ∀ x, next' x → next x) (hstart : ∀ a x, ¬ next' (text a ++ x))
    (hmore : ∀ x, ¬ next' (sep ++ x)) :
    Shows (fun l : List α => sep.intercalate (l.map text)) next' fun l => l.map key := by
  have htail : Shows (fun l : List α => l.flatMap fun a => sep ++ text a) next'
      fun l => l.map key := by
    refine (h.prepend sep).flatMap (fun x => ∃ y, x = sep ++ y) ?_ ?_ ?_
    · exact fun a x => ⟨text a ++ x, List.append_assoc ..⟩
    · rintro x (⟨y, rfl⟩ | hx)
      · exact hsep y
      · exact hnext x hx
    · rintro x hx ⟨y, rfl⟩
      exact hmore y hx
  -- behind the first text stands a separator, or the end of the row
  have hrest : ∀ (l : List α) (x : List Char), next' x →
      next ((l.flatMap fun a => sep ++ text a) ++ x) := by
    intro l x hx
    cases l with
    | nil => exact hnext x hx
    | cons a l =>
      rw [List.flatMap_cons, List.append_assoc, List.append_assoc]
      exact hsep _
  suffices hs : ∀ (l m : List α) (x y : List Char), next' x → next' y →
      sep.intercalate (l.map text) ++ x = sep.intercalate (m.map text) ++ y →
        l.map key = m.map key ∧ x = y from
    fun l m x y hx hy e => hs l m x y hx hy e
  intro l m x y hx hy e
  cases l with
  | nil =>
    cases m with
    | nil => exact ⟨rfl, e⟩
    | cons b m =>
      rw [List.map_cons, intercalate_cons, List.append_assoc] at e
      have e' : x = text b ++ _ := e
      exact absurd (e' ▸ hx) (hstart b _)
  | cons a l =>
    cases m with
    | nil =>
      rw [List.map_cons, intercalate_cons, List.append_assoc] at e
      have e' : text a ++ _ = y := e
      exact absurd (e' ▸ hy) (hstart a _)
    | cons b m =>
      rw [List.map_cons, List.map_cons, intercalate_cons, intercalate_cons, List.append_assoc,
        List.append_assoc, List.flatMap_map, List.flatMap_map] at e
      obtain ⟨hk, e'⟩ := h (hrest l x hx) (hrest m y hy) e
      obtain ⟨hks, hxy⟩ := htail hx hy e'
      exact ⟨List.cons_eq_cons.2 ⟨hk, hks⟩, hxy⟩

end PgSchema.Text
