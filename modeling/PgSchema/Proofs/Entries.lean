import Mathlib.Tactic.Lemma
import PgSchema.Entries

/-!
Dictionaries, by their entries.

Where keys come once, a value that is written for a key stands in the place of all that was there
for it (`number_put`).
-/

namespace PgSchema.Entries

variable {α β : Type} {l : Entries α} {key : String} {value : α} {e : String × α}

lemma mem_of_get? (h : l.get? key = some value) : (key, value) ∈ l := by
  induction l with
  | nil => simp [get?] at h
  | cons e l ih =>
    obtain ⟨k, v⟩ := e
    rw [get?, List.lookup_cons] at h
    by_cases hk : key = k
    · subst hk
      simp only [beq_self_eq_true, Option.some.injEq] at h
      rw [h]
      exact List.mem_cons_self
    · rw [beq_false_of_ne hk] at h
      exact List.mem_cons_of_mem _ (ih h)

lemma get?_put_self (l : Entries α) (key : String) (value : α) :
    (l.put key value).get? key = some value := by
  induction l with
  | nil => simp [put, get?]
  | cons e l ih =>
    rw [put]
    split
    · simp [get?]
    · rename_i hkey
      rw [get?, List.lookup_cons, beq_false_of_ne (Ne.symm hkey)]
      exact ih

lemma get?_put_of_ne {other : String} (h : other ≠ key) :
    (l.put key value).get? other = l.get? other := by
  induction l with
  | nil => simp [put, get?, List.lookup_cons, beq_false_of_ne h]
  | cons e l ih =>
    obtain ⟨k, v⟩ := e
    by_cases hk : k = key
    · subst hk
      simp [put, get?, List.lookup_cons, beq_false_of_ne h]
    · have ih' : (put l key value).lookup other = l.lookup other := ih
      by_cases ho : other = k
      · simp [put, get?, hk, ho]
      · simp [put, get?, hk, List.lookup_cons, beq_false_of_ne ho, ih']

lemma get?_eq_some_iff (h : (l.map Prod.fst).Nodup) :
    l.get? key = some value ↔ (key, value) ∈ l := by
  induction l with
  | nil => simp [get?]
  | cons e l ih =>
    obtain ⟨k, v⟩ := e
    rw [List.map_cons, List.nodup_cons] at h
    have ih' : l.lookup key = some value ↔ (key, value) ∈ l := ih h.2
    by_cases hk : key = k
    · subst hk
      have hnot : (key, value) ∉ l := fun hm => h.1 (List.mem_map.2 ⟨_, hm, rfl⟩)
      simp [get?, hnot, eq_comm]
    · have hb : (key == k) = false := beq_false_of_ne hk
      simp [get?, List.lookup_cons, hb, hk, ih']

/-- Where keys come once, some of the entries have a value for a key just if it is one of theirs. -/
lemma get?_filter (h : (l.map Prod.fst).Nodup) (p : String × α → Bool) :
    get? (l.filter p) key = some value ↔ (key, value) ∈ l ∧ p (key, value) = true := by
  rw [get?_eq_some_iff (h.sublist (List.filter_sublist.map _)), List.mem_filter]

/-- The value under a key is that of the first of many that is called like it. -/
lemma get?_map {γ : Type} (name : γ → String) (f : γ → α) (key : String) (xs : List γ) :
    get? (xs.map fun x => (name x, f x)) key = (xs.find? fun x => name x = key).map f := by
  induction xs with
  | nil => rfl
  | cons x xs ih =>
    have ih' : (xs.map fun x => (name x, f x)).lookup key = _ := ih
    rw [get?, List.map_cons, List.lookup_cons, List.find?_cons]
    by_cases hx : name x = key
    · simp [hx]
    · rw [beq_false_of_ne (Ne.symm hx), decide_eq_false hx, ih']

lemma mem_put (h : e ∈ l.put key value) : e ∈ l ∨ e = (key, value) := by
  induction l with
  | nil => exact Or.inr (List.mem_singleton.1 h)
  | cons e' l ih =>
    rw [put] at h
    split at h
    · rcases List.mem_cons.1 h with rfl | h
      · exact Or.inr rfl
      · exact Or.inl (List.mem_cons_of_mem _ h)
    · rcases List.mem_cons.1 h with rfl | h
      · exact Or.inl List.mem_cons_self
      · exact (ih h).imp_left (List.mem_cons_of_mem _)

lemma mem_put_self (l : Entries α) (key : String) (value : α) : (key, value) ∈ l.put key value :=
  mem_of_get? (get?_put_self l key value)

lemma mem_put_of_ne (h : e ∈ l) (hne : e.1 ≠ key) : e ∈ l.put key value := by
  induction l with
  | nil => cases h
  | cons e' l ih =>
    rw [put]
    split
    · rename_i hkey
      rcases List.mem_cons.1 h with rfl | h
      · exact absurd hkey hne
      · exact List.mem_cons_of_mem _ h
    · rcases List.mem_cons.1 h with rfl | h
      · exact List.mem_cons_self
      · exact List.mem_cons_of_mem _ (ih h)

/-- What stays of pairs whose keys come more than once are some of the pairs. -/
lemma mem_of_collapse {l : List (String × α)} (h : e ∈ collapse l) : e ∈ l := by
  have hmerge : ∀ first : Entries α, e ∈ merge first l → e ∈ first ∨ e ∈ l := by
    clear h
    induction l with
    | nil => exact fun first h => Or.inl h
    | cons e' l ih =>
      intro first h
      rcases ih (first.put e'.1 e'.2) h with h | h
      · refine (mem_put h).imp_right fun he => ?_
        rw [he]
        exact List.mem_cons_self
      · exact Or.inr (List.mem_cons_of_mem _ h)
  exact (hmerge [] h).resolve_left List.not_mem_nil

lemma put_of_fresh (h : key ∉ l.map Prod.fst) (value : α) :
    l.put key value = l ++ [(key, value)] := by
  induction l with
  | nil => rfl
  | cons e l ih =>
    rw [List.map_cons, List.mem_cons, not_or] at h
    rw [put, if_neg (Ne.symm h.1), ih h.2, List.cons_append]

lemma collapse_of_nodup (h : (l.map Prod.fst).Nodup) : collapse l = l := by
  have hmerge : ∀ first : Entries α, ((first ++ l).map Prod.fst).Nodup →
      merge first l = first ++ l := by
    clear h
    induction l with
    | nil => exact fun first _ => (List.append_nil first).symm
    | cons e l ih =>
      intro first hn
      have hfresh : e.1 ∉ first.map Prod.fst := by
        rw [List.map_append, List.nodup_append] at hn
        exact fun he => hn.2.2 _ he _ List.mem_cons_self rfl
      have hstep := ih (first ++ [(e.1, e.2)]) (by rwa [List.append_assoc])
      rw [List.append_assoc] at hstep
      rw [merge, List.foldl_cons, put_of_fresh hfresh]
      exact hstep
  exact hmerge [] h

/-- What is written over others: a key has the last value that is written for it, or else the one
that it had. -/
lemma get?_merge (first second : Entries α) (key : String) :
    (first.merge second).get? key = (get? second.reverse key).or (first.get? key) := by
  induction second generalizing first with
  | nil => rfl
  | cons e second ih =>
    have hlast : get? (e :: second).reverse key =
        (get? second.reverse key).or (get? [e] key) := by
      rw [List.reverse_cons]
      exact List.lookup_append
    have hput : (first.put e.1 e.2).get? key = (get? [e] key).or (first.get? key) := by
      obtain ⟨k, value⟩ := e
      by_cases hkey : key = k
      · rw [hkey, get?_put_self]
        simp [get?]
      · rw [get?_put_of_ne hkey]
        simp [get?, List.lookup_cons, beq_false_of_ne hkey]
    rw [hlast, Option.or_assoc, ← hput]
    exact ih _

/-! ### Keys -/

lemma keys_mapValues (f : α → β) (l : Entries α) : (l.mapValues f).keys = l.keys := by
  simp [keys, mapValues, Function.comp_def]

lemma mem_keys (h : e ∈ l) : e.1 ∈ l.keys := List.mem_map_of_mem h

lemma get?_eq_none_iff : l.get? key = none ↔ key ∉ l.keys := by
  have hlookup : l.lookup key = none ↔ ∀ e ∈ l, (key != e.1) = true := List.lookup_eq_none_iff
  simp only [get?, keys, hlookup, List.mem_map, not_exists, not_and, bne_iff_ne]
  exact forall₂_congr fun e _ => ne_comm

lemma erase_of_notMem (h : key ∉ l.keys) : l.erase key = l := by
  refine List.filter_eq_self.2 fun e he => bne_iff_ne.2 ?_
  rintro rfl
  exact h (mem_keys he)

lemma nodup_erase (h : l.keys.Nodup) (key : String) : (l.erase key).keys.Nodup :=
  h.sublist (List.filter_sublist.map _)

lemma mem_keys_put {k : String} (h : k ∈ (l.put key value).keys) : k ∈ l.keys ∨ k = key := by
  obtain ⟨e, he, rfl⟩ := List.mem_map.1 h
  exact (mem_put he).imp mem_keys fun h => by rw [h]

lemma nodup_put (h : l.keys.Nodup) (key : String) (value : α) : (l.put key value).keys.Nodup := by
  induction l with
  | nil => exact List.pairwise_singleton _ _
  | cons e l ih =>
    obtain ⟨hfresh, hl⟩ := List.nodup_cons.1 h
    rw [put]
    split
    · rename_i hkey
      exact List.nodup_cons.2 ⟨hkey ▸ hfresh, hl⟩
    · rename_i hkey
      refine List.nodup_cons.2 ⟨fun hmem => ?_, ih hl⟩
      exact (mem_keys_put hmem).elim hfresh hkey

/-! ### Dictionaries written over each other -/

lemma nodup_merge {first : Entries α} (h : first.keys.Nodup) (second : Entries α) :
    (first.merge second).keys.Nodup := by
  induction second generalizing first with
  | nil => exact h
  | cons e second ih => exact ih (nodup_put h e.1 e.2)

lemma mem_merge {first second : Entries α} (h : e ∈ first.merge second) :
    e ∈ first ∨ e ∈ second := by
  induction second generalizing first with
  | nil => exact .inl h
  | cons f second ih =>
    rcases ih h with hfirst | hsecond
    · refine (mem_put hfirst).imp_right ?_
      rintro rfl
      exact List.mem_cons_self
    · exact .inr (List.mem_cons_of_mem _ hsecond)

lemma mem_keys_merge {first second : Entries α} {k : String} (h : k ∈ (first.merge second).keys) :
    k ∈ first.keys ∨ k ∈ second.keys := by
  obtain ⟨e, he, rfl⟩ := List.mem_map.1 h
  exact (mem_merge he).imp mem_keys mem_keys

lemma get?_reverse (h : l.keys.Nodup) (key : String) : get? l.reverse key = l.get? key := by
  have hreverse : (l.reverse.map Prod.fst).Nodup := by
    rw [List.map_reverse]
    exact List.pairwise_reverse.2 (h.imp Ne.symm)
  refine Option.ext fun value => ?_
  rw [get?_eq_some_iff hreverse, get?_eq_some_iff h, List.mem_reverse]

/-- Where the keys of the second dictionary come once, each of them stands as it stands there. -/
lemma get?_merge_of_nodup (first : Entries α) {second : Entries α} (h : second.keys.Nodup)
    (key : String) : (first.merge second).get? key = (second.get? key).or (first.get? key) := by
  rw [get?_merge, get?_reverse h]

lemma put_put_self (l : Entries α) (key : String) (old new : α) :
    (l.put key old).put key new = l.put key new := by
  induction l with
  | nil => simp [put]
  | cons e l ih =>
    by_cases hkey : e.1 = key
    · simp [put, hkey]
    · simp [put, hkey, ih]

/-- Two keys are written in either order, if the one that comes later is there already. -/
lemma put_comm {other : String} (h : other ≠ key) (hthere : other ∈ l.keys) (value new : α) :
    (l.put key value).put other new = (l.put other new).put key value := by
  induction l with
  | nil => cases hthere
  | cons e l ih =>
    obtain ⟨k, v⟩ := e
    by_cases hkey : k = key
    · subst hkey
      simp [put, Ne.symm h]
    · by_cases hother : k = other
      · subst hother
        simp [put, h]
      · have hl : other ∈ keys l := (List.mem_cons.1 hthere).resolve_left (Ne.symm hother)
        simp [put, hkey, hother, ih hl]

lemma mem_keys_put_of_mem {k : String} (h : k ∈ l.keys) : k ∈ (l.put key value).keys := by
  by_cases hkey : k = key
  · exact hkey ▸ mem_keys (mem_put_self l key value)
  · obtain ⟨e, he, rfl⟩ := List.mem_map.1 h
    exact mem_keys (mem_put_of_ne he hkey)

/-- A key that is there, and that is not written again, may as well be written first. -/
lemma merge_put_of_mem {first second : Entries α} (hthere : key ∈ first.keys)
    (hfresh : key ∉ second.keys) (value : α) :
    (first.merge second).put key value = (first.put key value).merge second := by
  induction second generalizing first with
  | nil => rfl
  | cons e second ih =>
    rw [keys, List.map_cons, List.mem_cons, not_or] at hfresh
    have hput := put_comm hfresh.1 hthere e.2 value
    exact (ih (mem_keys_put_of_mem hthere) hfresh.2).trans (congrArg (merge · second) hput)

/-- A key is written over a dictionary, and this over another, or all at once. -/
lemma merge_put {second : Entries α} (h : second.keys.Nodup) (first : Entries α) (key : String)
    (value : α) : first.merge (second.put key value) = (first.merge second).put key value := by
  induction second generalizing first with
  | nil => rfl
  | cons e second ih =>
    obtain ⟨k, v⟩ := e
    obtain ⟨hfresh, hsecond⟩ := List.nodup_cons.1 h
    by_cases hkey : k = key
    · subst hkey
      have hthere : k ∈ (first.put k v).keys := mem_keys (mem_put_self first k v)
      have hmerge := merge_put_of_mem hthere hfresh value
      rw [put_put_self] at hmerge
      rw [put, if_pos rfl]
      exact hmerge.symm
    · rw [put, if_neg hkey]
      exact ih hsecond (first.put k v)

/-- **Dictionaries are written over each other** in any grouping. -/
lemma merge_assoc (first : Entries α) {second : Entries α} (h : second.keys.Nodup)
    (third : Entries α) : first.merge (second.merge third) = (first.merge second).merge third := by
  induction third generalizing second with
  | nil => rfl
  | cons e third ih =>
    have hstep := ih (nodup_put h e.1 e.2)
    rw [merge_put h] at hstep
    exact hstep

/-! ### Numbers of entries -/

/-- How many values there are of a kind. -/
def number (p : α → Bool) (l : Entries α) : Nat := l.countP fun e => p e.2

variable {p : α → Bool}

lemma number_cons (e : String × α) (l : Entries α) :
    number p (e :: l) = number p l + (p e.2).toNat := by
  rw [number, List.countP_cons]
  cases p e.2 <;> rfl

lemma number_pos (h : 0 < number p l) : ∃ e ∈ l, p e.2 = true := List.countP_pos_iff.1 h

lemma number_pos_of_mem (he : e ∈ l) (hp : p e.2 = true) : 0 < number p l :=
  List.countP_pos_iff.2 ⟨e, he, hp⟩

lemma number_mapValues (f : β → α) (l : Entries β) :
    number p (l.mapValues f) = number (p ∘ f) l := by
  rw [number, mapValues, List.countP_map]
  rfl

/-- **A value that is written** stands in the place of all that was there for its key. -/
lemma number_put (h : l.keys.Nodup) (key : String) (value : α) :
    number p (l.put key value) = number p (l.erase key) + (p value).toNat := by
  induction l with
  | nil => exact number_cons (key, value) []
  | cons e l ih =>
    obtain ⟨hfresh, hl⟩ := List.nodup_cons.1 h
    obtain ⟨k, v⟩ := e
    rw [put]
    by_cases hkey : k = key
    · subst hkey
      rw [if_pos rfl, number_cons, erase, List.filter_cons_of_neg (by simp)]
      exact congrArg (number p · + _) (erase_of_notMem hfresh).symm
    · rw [if_neg hkey, number_cons, ih hl, erase, erase,
        List.filter_cons_of_pos (by simpa using hkey), number_cons, Nat.add_right_comm]

lemma number_erase (h : l.keys.Nodup) (he : (key, value) ∈ l) :
    number p l = number p (l.erase key) + (p value).toNat := by
  induction l with
  | nil => cases he
  | cons e l ih =>
    obtain ⟨hfresh, hl⟩ := List.nodup_cons.1 h
    rcases List.mem_cons.1 he with rfl | he
    · rw [number_cons, erase, List.filter_cons_of_neg (by simp)]
      exact congrArg (number p · + _) (erase_of_notMem hfresh).symm
    · have hkey : e.1 ≠ key := by
        rintro rfl
        exact hfresh (List.mem_map.2 ⟨_, he, rfl⟩)
      rw [number_cons, ih hl he, erase, erase, List.filter_cons_of_pos (by simpa using hkey),
        number_cons, Nat.add_right_comm]

end PgSchema.Entries
