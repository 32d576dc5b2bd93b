import PgSchema.Proofs.Course.Plain
import PgSchema.Proofs.Object.Asking

/-!
Runs that change nothing that is there.

A quiet run puts new things on the heap, and leaves all that is there and the registers alone
(`Quiet`).  Data become values like that (`Quiet.ofJson`), and what has become of them is looked
into like that (`Value.IsData`, `quiet_hasElement`).
-/

namespace PgSchema.Object

open Query (Bound Selector)
open Session (callKnown machine)

/-- **A later course with all that was there before.** -/
structure Later (c d : Course State) : Prop where
  heap : Changes [] c.work.heap d.work.heap
  registers : d.work.registers = c.work.registers

namespace Later

variable {c d e : Course State}

lemma of_work (h : d.work = c.work) : Later c d := by
  refine ⟨?_, by rw [h]⟩
  rw [h]
  exact .refl _ _

lemma trans (h : Later c d) (h' : Later d e) : Later c e :=
  ⟨h.heap.trans h'.heap, h'.registers.trans h.registers⟩

/-- A run, and what is done with its outcome if it has one. -/
lemma bind {α β : Type} {x : Run α} {f : α → Run β} (hx : Later c (x c).2)
    (hf : ∀ a d, x c = (.ok a, d) → Later c d → Later d (f a d).2) : Later c ((x >>= f) c).2 := by
  rcases h : x c with ⟨e | a, d⟩
  · rw [Action.bind_apply_error h]
    rwa [h] at hx
  · rw [Action.bind_apply_ok h]
    rw [h] at hx
    exact hx.trans (hf a d h hx)

end Later

/-- **A run that changes nothing that is there**, if it begins on a heap or on a later one. -/
def Quiet {α : Type} (base : Heap) (x : Run α) : Prop :=
  ∀ c, Changes [] base c.work.heap → Later c (x c).2

namespace Quiet

variable {α β : Type} {base : Heap} {x : Run α}

lemma of_spares (h : x.Spares) : Quiet base x := fun c _ => .of_work (h c)

lemma pure (a : α) : Quiet base (Pure.pure a : Run α) := of_spares (.pure a)

lemma refuse (fault : Fault) : Quiet base (Object.refuse fault : Run α) := fun _ _ => .of_work rfl

lemma bind {f : α → Run β} (hx : Quiet base x) (hf : ∀ a, Quiet base (f a)) :
    Quiet base (x >>= f) :=
  fun c hc => (hx c hc).bind fun a d _ hd => hf a d (hc.trans hd.heap)

lemma check (a : Except Fault α) : Quiet base (Action.check a : Run α) :=
  of_spares (.of_plain (.check a))

lemma within (coordinate : Log.Coordinate) (value : String) (h : Quiet base x) :
    Quiet base (Action.within coordinate value x) := by
  intro c hc
  have hon := h { c with
    contexts := c.contexts.current.withCoordinate coordinate value :: c.contexts } hc
  exact ⟨hon.heap, hon.registers⟩

lemma through : Action.Through fun _ (x : Run _) => Quiet base x where
  pure := pure
  bind := bind
  check := check
  log _ _ _ := of_spares (.of_plain (.log _ _ _))
  within := within

/-! ### Looking -/

lemma heap : Quiet base (Object.heap : Run Heap) := fun _ _ => .of_work rfl

lemma isTrue (v : Value) : Quiet base (Object.isTrue v) := fun _ _ => .of_work rfl

lemma showPlain (v : Value) : Quiet base (Object.showPlain v) := heap.bind fun _ => check _

lemma showValue (v : Value) : Quiet base (Object.showValue v) := heap.bind fun _ => check _

lemma elementAt (v : Value) (key : String) : Quiet base (Object.elementAt v key) := by
  refine heap.bind fun h => ?_
  repeat' split
  all_goals first | exact pure _ | exact refuse _

/-! ### New things -/

lemma newList (items : List Value) : Quiet base (Object.newList items) :=
  fun _ _ => ⟨.push _ _ _, rfl⟩

lemma newDict (entries : List (Value × Value)) : Quiet base (Object.newDict entries) :=
  fun _ _ => ⟨.push _ _ _, rfl⟩

lemma newObject (cls : Class) (attributes : Entries Value) :
    Quiet base (Object.newObject cls attributes) := fun _ _ => ⟨.push _ _ _, rfl⟩

mutual

/-- **Data become values quietly.** -/
lemma ofJson : ∀ v : Json, Quiet base (Object.ofJson v)
  | .null | .bool _ | .int _ | .double _ | .text _ => by
    rw [Object.ofJson]
    exact pure _
  | .list items => by
    rw [Object.ofJson]
    exact (ofItems items).bind newList
  | .object fields => by
    rw [Object.ofJson]
    exact (ofFields fields).bind newDict

lemma ofItems : ∀ items : List Json, Quiet base (Object.ofItems items)
  | [] => by
    rw [Object.ofItems]
    exact pure _
  | v :: items => by
    rw [Object.ofItems]
    exact (ofJson v).bind fun _ => (ofItems items).bind fun _ => pure _

lemma ofFields : ∀ fields : List (String × Json), Quiet base (Object.ofFields fields)
  | [] => by
    rw [Object.ofFields]
    exact pure _
  | (key, v) :: fields => by
    rw [Object.ofFields]
    exact (ofJson v).bind fun _ => (ofFields fields).bind fun _ => pure _

end

/-- A run at a site of its own. -/
lemma atSite (id : Nat) (h : Quiet base x) : Quiet base (Object.atSite id x) := by
  intro c hc
  unfold Object.atSite
  dsimp only
  split
  · exact h c hc
  · have hon := h { c with
      toSite := { (c.work.sites.setIfInBounds c.work.site c.toSite).getD id {} with
        store := { ((c.work.sites.setIfInBounds c.work.site c.toSite).getD id {}).store with
          events := c.store.events } }
      work := { c.work with
        sites := c.work.sites.setIfInBounds c.work.site c.toSite, site := id } } hc
    exact ⟨hon.heap, hon.registers⟩

end Quiet

/-! ### Data -/

/-- **A value that stands for data.** -/
def Value.IsData : Value → Prop
  | .null | .bool _ | .int _ | .double _ | .text _ | .list _ | .dict _ => True
  | _ => False

/-- Data whose items are data. -/
def Fetched (h : Heap) (v : Value) : Prop :=
  v.IsData ∧ ∀ items, ownItems? h v = some items → ∀ x ∈ items, x.IsData

section Data

variable {c d : Course State} {base : Heap}

lemma isData_of_ofJson {v : Json} {x : Value} (h : ofJson v c = (.ok x, d)) : x.IsData := by
  cases v with
  | list items =>
    rw [ofJson] at h
    obtain ⟨values, e, -, h⟩ := Action.bind_eq_ok.1 h
    cases h
    exact trivial
  | object fields =>
    rw [ofJson] at h
    obtain ⟨entries, e, -, h⟩ := Action.bind_eq_ok.1 h
    cases h
    exact trivial
  | _ =>
    rw [ofJson] at h
    cases h
    exact trivial

lemma isData_of_ofItems {items : List Json} {values : List Value}
    (h : ofItems items c = (.ok values, d)) : ∀ x ∈ values, x.IsData := by
  induction items generalizing c values with
  | nil =>
    rw [ofItems] at h
    cases h
    exact fun _ hx => absurd hx List.not_mem_nil
  | cons v items ih =>
    rw [ofItems] at h
    obtain ⟨x, e, hx, h⟩ := Action.bind_eq_ok.1 h
    obtain ⟨xs, e', hxs, h⟩ := Action.bind_eq_ok.1 h
    cases h
    exact List.forall_mem_cons.2 ⟨isData_of_ofJson hx, ih hxs⟩

lemma isData_of_ofFields {fields : List (String × Json)} {entries : List (Value × Value)}
    (h : ofFields fields c = (.ok entries, d)) : ∀ x ∈ entries.map (·.1), x.IsData := by
  induction fields generalizing c entries with
  | nil =>
    rw [ofFields] at h
    cases h
    exact fun _ hx => absurd hx List.not_mem_nil
  | cons field fields ih =>
    rw [ofFields] at h
    obtain ⟨x, e, hx, h⟩ := Action.bind_eq_ok.1 h
    obtain ⟨xs, e', hxs, h⟩ := Action.bind_eq_ok.1 h
    cases h
    exact List.forall_mem_cons.2 ⟨trivial, ih hxs⟩

lemma fetched_newList {items : List Value} (hitems : ∀ x ∈ items, x.IsData) {x : Value}
    (h : newList items c = (.ok x, d)) : Fetched d.work.heap x := by
  rw [newList_apply] at h
  cases h
  refine ⟨trivial, fun found hfound => ?_⟩
  obtain rfl := Option.some.inj hfound
  rwa [heap_withHeap, Heap.items_of_list Array.getElem?_push_size]

/-- **What data become has data for its items.** -/
lemma fetched_of_ofJson {v : Json} {x : Value} (h : ofJson v c = (.ok x, d)) :
    Fetched d.work.heap x := by
  have htext : ∀ s : String, ∀ y ∈ characters s, y.IsData := by
    intro s y hy
    obtain ⟨_, -, rfl⟩ := List.mem_map.1 hy
    exact trivial
  cases v with
  | list items =>
    rw [ofJson] at h
    obtain ⟨values, e, hvalues, h⟩ := Action.bind_eq_ok.1 h
    exact fetched_newList (isData_of_ofItems hvalues) h
  | object fields =>
    rw [ofJson] at h
    obtain ⟨entries, e, hentries, h⟩ := Action.bind_eq_ok.1 h
    rw [newDict_apply] at h
    cases h
    refine ⟨trivial, fun found hfound => ?_⟩
    obtain rfl := Option.some.inj hfound
    unfold Heap.entries
    rw [heap_withHeap, Array.getElem?_push_size]
    exact isData_of_ofFields hentries
  | text s =>
    rw [ofJson] at h
    cases h
    refine ⟨trivial, fun found hfound => ?_⟩
    obtain rfl := Option.some.inj hfound
    exact htext s
  | _ =>
    rw [ofJson] at h
    cases h
    refine ⟨trivial, fun found hfound => ?_⟩
    cases hfound

/-- Data have their items by themselves, or none. -/
lemma hasItems_of_isData {h : Heap} {v : Value} (hv : v.IsData) (hnone : ownItems? h v = none) :
    hasItems h v = false := by
  cases v <;> first | exact hv.elim | rfl | cases hnone

/-- The items of data are looked at. -/
lemma items_of_isData {m : Machine} {v : Value} (hv : v.IsData) :
    m.items v c = ((ownItems? c.work.heap v).elim
      (.error (.fault (.notIterable v.sortName))) .ok, c) := by
  rw [Machine.items, Action.bind_apply_ok (heap_apply c)]
  cases hown : ownItems? c.work.heap v with
  | some items => rfl
  | none =>
    dsimp only
    rw [hasItems_of_isData hv hown]
    rfl

lemma quiet_hasElement {m : Machine} {v : Value} (hv : v.IsData) (part : String) :
    Quiet base (m.hasElement part v) := by
  refine Quiet.heap.bind fun h => ?_
  split
  · exact .pure _
  · exact .pure _
  · rename_i hown
    rw [hasItems_of_isData hv hown]
    exact .refuse _

end Data

end PgSchema.Object
