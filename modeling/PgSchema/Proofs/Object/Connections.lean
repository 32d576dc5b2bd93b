import PgSchema.Proofs.Object.Quiet

/-!
Connections of builders.

A builder calls its connection by a few methods, and the connection is a recorder or one with a
store (`Connects`).  Either of them answers with data and changes nothing that is there, so to ask a
builder for something is quiet (`Connects.quiet_exchange`).
-/

namespace PgSchema.Object

open Query (Bound Selector)
open Session (callKnown machine)

/-- The methods by which statements go over a connection. -/
def statementNames : List String := ["fetch_all", "fetch_one", "execute"]

/-- The methods of a connection that builders call. -/
def askedNames : List String := "new_model_from_row" :: statementNames

/-- **The connections of builders**: recorders, and connections that have their methods from the
library. -/
inductive Connects (base : Heap) : Value → Prop
  | recorder (id : Nat) : Connects base (.object Recorder.cls id)
  | link {cls : Class} {id : Nat} {l : Link} (hcls : cls.Extends Connection.owner)
      (hthere : ∀ i ∈ cls.places, i < base.size)
      (hleaves : ∀ name ∈ askedNames, cls.Leaves base name)
      (hlink : base[id]? = some (.link l))
      (hkept : ∀ name ∈ askedNames, l.kept.get? name = none) :
      Connects base (.object cls id)

/-- A method of a connection, as it is looked for. -/
def methodOf : Value → String → Value
  | .object cls id, name =>
    if cls = Recorder.cls then .function (.noting name)
    else .method (.object cls id) (.known Connection.owner name)
  | v, _ => v

variable {base : Heap} {c d : Course State} {connection : Value} {name : String}

/-- **The methods are found**, and nothing is changed. -/
lemma Connects.member_apply (hv : Connects base connection) (hname : name ∈ askedNames)
    (hc : Changes [] base c.work.heap) (n : Nat) :
    (machine (n + 1)).member connection name c = (.ok (methodOf connection name), c) := by
  cases hv with
  | recorder id =>
    simp only [askedNames, statementNames, List.mem_cons, List.not_mem_nil, or_false] at hname
    rcases hname with rfl | rfl | rfl | rfl <;> rfl
  | @link cls id l hcls hthere hleaves hlink hkept =>
    have hrecorder : cls ≠ Recorder.cls := hcls.ne_recorder (by decide)
    have hlater : c.work.heap[id]? = some (.link l) := by
      rw [hc.others id (Array.getElem?_eq_some_iff.1 hlink).1 List.not_mem_nil, hlink]
    have hnone : (c.work.heap.attributes id).get? name = none := by
      rw [Heap.attributes, hlater]
      exact hkept name hname
    have hleft : cls.Leaves c.work.heap name := fun i hi => by
      rw [hc.attributes_eq (hthere i hi) List.not_mem_nil]
      exact hleaves name hname i hi
    have hfound : ∃ f, classMember? c.work.heap (.known Connection.owner) name =
        some (.feature Connection.owner (.method f)) := by
      simp only [askedNames, statementNames, List.mem_cons, List.not_mem_nil,
        or_false] at hname
      rcases hname with rfl | rfl | rfl | rfl <;> exact ⟨_, rfl⟩
    obtain ⟨f, hf⟩ := hfound
    rw [methodOf, if_neg hrecorder]
    exact member_of_class hrecorder ((classMember?_of_extends hcls hleft).trans hf) hnone

/-! ### Recorders -/

namespace Recorder

lemma quiet_note (method : String) (arguments : List Value) :
    Quiet base (note method arguments) := by
  refine (Quiet.through.each fun v _ => Quiet.showValue v).bind fun shown => ?_
  refine Quiet.bind (fun _ _ => ⟨.refl _ _, rfl⟩) fun _ => Quiet.bind (fun _ _ => .of_work rfl)
    fun s => ?_
  split
  · exact Quiet.bind (fun _ _ => ⟨.refl _ _, rfl⟩) fun _ => .ofJson _
  · unfold fallback
    split
    · exact .pure _
    · split
      · exact .newList _
      · exact .pure _

/-- A recorder answers a statement with data. -/
lemma fetched_note {method : String} {arguments : List Value} {x : Value}
    (hmethod : method ≠ "new_model_from_row") (h : note method arguments c = (.ok x, d)) :
    Fetched d.work.heap x := by
  obtain ⟨shown, e, -, h⟩ := Action.bind_eq_ok.1 h
  obtain ⟨_, e, -, h⟩ := Action.bind_eq_ok.1 h
  obtain ⟨s, e, -, h⟩ := Action.bind_eq_ok.1 h
  have hfallback : ∀ e, fallback method arguments e = (.ok x, d) → Fetched d.work.heap x := by
    intro e h
    unfold fallback at h
    rw [if_neg hmethod] at h
    split at h
    · exact fetched_newList (fun _ hx => absurd hx List.not_mem_nil) h
    · cases h
      exact ⟨trivial, fun _ hitems => nomatch hitems⟩
  rcases hreturns : s.returns.get? method with _ | _ | ⟨next, rest⟩ <;> simp only [hreturns] at h
  · exact hfallback _ h
  · exact hfallback _ h
  · obtain ⟨_, e, -, h⟩ := Action.bind_eq_ok.1 h
    exact fetched_of_ofJson h

/-- A method of a recorder writes its call down. -/
lemma call_noting (n : Nat) (method : String) (given : List Value) :
    (machine (n + 1)).call (.function (.noting method)) given [] = (do
      let h ← heap
      let a ← Action.check ((signature h method).accept given [])
      note method a.rest) := rfl

end Recorder

/-! ### Connections with a store -/

namespace Link

lemma quiet_of (v : Value) : Quiet base (Link.of v) := by
  refine Quiet.heap.bind fun h => ?_
  repeat' split
  all_goals first | exact .pure _ | exact .refuse _

lemma quiet_use (self : Value) {α : Type} {body : Connection → Run α}
    (h : ∀ k, Quiet base (body k)) : Quiet base (use self body) :=
  (quiet_of self).bind fun l => .atSite l.site (h l.connection)

/-- A statement that a connection runs. -/
def running (run : Connection → String → Json → Run Json) (self text values : Value) : Run Value :=
  use self fun k => do
    let text ← showPlain text
    let params ← showValue values
    let found ← run k text params
    ofJson found

/-- What a connection runs by a method. -/
def runOf (name : String) (k : Connection) (text : String) (params : Json) : Run Json :=
  if name = "fetch_all" then do
    let rows ← k.fetchAll text params
    return .list rows
  else if name = "fetch_one" then k.fetchOne text params
  else k.execute text params

lemma callKnown_statement (hname : name ∈ statementNames) (m : Machine) (self x y : Value) :
    callKnown m Connection.owner name [self, x, y] [] = running (runOf name) self x y := by
  simp only [statementNames, List.mem_cons, List.not_mem_nil, or_false] at hname
  rcases hname with rfl | rfl | rfl <;> rfl

lemma spares_runOf (name : String) (k : Connection) (text : String) (params : Json) :
    (runOf name k text params).Spares := by
  unfold runOf
  split
  · exact .bind (k.spares_fetchAll text params) fun _ => .pure _
  · split
    · exact k.spares_fetchOne text params
    · exact k.spares_execute text params

lemma quiet_running (self text values : Value) :
    Quiet base (running (runOf name) self text values) :=
  quiet_use self fun k => (Quiet.showPlain text).bind fun _ => (Quiet.showValue values).bind
    fun _ => (Quiet.of_spares (spares_runOf name k _ _)).bind fun _ => .ofJson _

/-- What is on the heap is there at a site, and what is left at the site stays there. -/
lemma atSite_eq_ok {α : Type} {body : Run α} {id : Nat} {a : α}
    (h : atSite id body c = (.ok a, d)) :
    ∃ e e', body e = (.ok a, e') ∧ e.work.heap = c.work.heap ∧ e'.work.heap = d.work.heap := by
  unfold atSite at h
  dsimp only at h
  split at h
  · exact ⟨c, d, h, rfl, rfl⟩
  · obtain ⟨hr, hd⟩ := Prod.mk.inj h
    exact ⟨_, _, Prod.ext hr rfl, rfl, by rw [← hd]⟩

/-- A connection answers a statement with data. -/
lemma fetched_running {run : Connection → String → Json → Run Json} {self text values x : Value}
    (h : running run self text values c = (.ok x, d)) : Fetched d.work.heap x := by
  obtain ⟨l, e, -, h⟩ := Action.bind_eq_ok.1 h
  obtain ⟨e, e', h, -, hheap⟩ := atSite_eq_ok h
  change (showPlain text >>= fun text => showValue values >>= fun params =>
    run l.connection text params >>= ofJson) e = _ at h
  obtain ⟨_, e, -, h⟩ := Action.bind_eq_ok.1 h
  obtain ⟨_, e, -, h⟩ := Action.bind_eq_ok.1 h
  obtain ⟨found, e, -, h⟩ := Action.bind_eq_ok.1 h
  rw [← hheap]
  exact fetched_of_ofJson h

lemma callKnown_newModel (m : Machine) (self row : Value) (t : Table) :
    callKnown m Connection.owner "new_model_from_row" [self, .table t, row] [] =
      use self fun k =>
        k.newModel (cell? m row) t >>= fun model =>
          newObject (.model model.className) model.attributes := rfl

lemma quiet_modelClass (k : Connection) (t : Table) : Quiet base (k.modelClass t) := by
  refine Quiet.bind (fun _ _ => .of_work rfl) fun c => ?_
  split
  · exact .pure _
  · split
    · exact fun _ _ => .of_work rfl
    · refine (Quiet.check _).bind fun classes => ?_
      split
      · exact Quiet.bind (fun _ _ => .of_work rfl) fun _ => .pure _
      · exact fun _ _ => .of_work rfl

lemma quiet_cell? {row : Value} (hrow : row.IsData) (m : Machine) (name : String) :
    Quiet base (cell? m row name) := by
  refine (quiet_hasElement hrow name).bind fun found => ?_
  split
  · exact (Quiet.elementAt row name).bind fun _ => .pure _
  · exact .pure _

lemma quiet_newModel (k : Connection) (t : Table) (m : Machine) {row : Value} (hrow : row.IsData) :
    Quiet base (k.newModel (cell? m row) t) := by
  have hattributes : Quiet base (Connection.rowAttributes (cell? m row) t) := by
    refine (Quiet.through.each fun column _ => ?_).bind fun _ => .pure _
    exact (quiet_cell? hrow m column.columnName).bind fun _ => .pure _
  exact hattributes.bind fun _ => (quiet_modelClass k t).bind fun _ => .pure _

end Link

/-! ### Questions -/

namespace Connects

variable (hv : Connects base connection)

include hv

/-- The method for a statement is called quietly, and gives data. -/
lemma quiet_statement (hname : name ∈ statementNames) (n : Nat) (text : String) (values : Value) :
    Quiet base ((machine (n + 1)).call (methodOf connection name) [.text text, values] []) ∧
      ∀ c d answer, (machine (n + 1)).call (methodOf connection name) [.text text, values] [] c =
        (.ok answer, d) → Fetched d.work.heap answer := by
  cases hv with
  | recorder id =>
    have hmethod : name ≠ "new_model_from_row" := by
      rintro rfl
      exact absurd hname (by decide)
    rw [methodOf, if_pos rfl, Recorder.call_noting]
    refine ⟨Quiet.heap.bind fun h => (Quiet.check _).bind fun a => Recorder.quiet_note _ _,
      fun c d answer h => ?_⟩
    obtain ⟨_, e, -, h⟩ := Action.bind_eq_ok.1 h
    obtain ⟨a, e, -, h⟩ := Action.bind_eq_ok.1 h
    exact Recorder.fetched_note hmethod h
  | @link cls id l hcls =>
    have hknown : (machine (n + 1)).call (methodOf (.object cls id) name) [.text text, values] [] =
        heap >>= fun _ => Link.running (Link.runOf name) (.object cls id) (.text text) values := by
      rw [methodOf, if_neg (hcls.ne_recorder (by decide)), ← Link.callKnown_statement hname
        (machine n)]
      rfl
    rw [hknown]
    refine ⟨Quiet.heap.bind fun _ => Link.quiet_running _ _ _, fun c d answer h => ?_⟩
    obtain ⟨_, e, -, h⟩ := Action.bind_eq_ok.1 h
    exact Link.fetched_running h

/-- **A statement goes over a connection quietly**, and data come back. -/
lemma quiet_sent (hname : name ∈ statementNames) (n : Nat) (q : Bound Value) :
    Quiet base (sent (machine (n + 1)) connection name q) ∧ ∀ c d answer,
      Changes [] base c.work.heap → sent (machine (n + 1)) connection name q c = (.ok answer, d) →
        Fetched d.work.heap answer := by
  have hmember : ∀ c, Changes [] base c.work.heap → sent (machine (n + 1)) connection name q c =
      (newList q.2 >>= fun values =>
        (machine (n + 1)).call (methodOf connection name) [.text q.1, values] []) c := fun c hc =>
    Action.bind_apply_ok (hv.member_apply (List.mem_cons_of_mem _ hname) hc n) _
  refine ⟨fun c hc => ?_, fun c d answer hc h => ?_⟩
  · rw [hmember c hc]
    exact (Quiet.newList _).bind (fun values => (hv.quiet_statement hname n q.1 values).1) c hc
  · rw [hmember c hc] at h
    obtain ⟨values, e, -, h⟩ := Action.bind_eq_ok.1 h
    exact (hv.quiet_statement hname n q.1 values).2 _ _ _ h

/-- A row becomes a model quietly. -/
lemma quiet_model (n : Nat) (t : Table) {row : Value} (hrow : row.IsData) :
    Quiet base ((machine (n + 1)).callMethod connection "new_model_from_row" [.table t, row]) := by
  have hcall : Quiet base ((machine (n + 1)).call (methodOf connection "new_model_from_row")
      [.table t, row] []) := by
    cases hv with
    | recorder id =>
      rw [methodOf, if_pos rfl, Recorder.call_noting]
      exact Quiet.heap.bind fun h => (Quiet.check _).bind fun a => Recorder.quiet_note _ _
    | @link cls id l hcls =>
      have hknown : (machine (n + 1)).call (methodOf (.object cls id) "new_model_from_row")
          [.table t, row] [] = (heap >>= fun _ => Link.use (.object cls id) fun k =>
            k.newModel (Link.cell? (machine n) row) t >>= fun model =>
              newObject (.model model.className) model.attributes) := by
        rw [methodOf, if_neg (hcls.ne_recorder (by decide)), ← Link.callKnown_newModel (machine n)]
        rfl
      rw [hknown]
      exact Quiet.heap.bind fun _ => Link.quiet_use _ fun k =>
        (Link.quiet_newModel k t _ hrow).bind fun _ => .newObject _ _
  intro c hc
  rw [Machine.callMethod, Action.bind_apply_ok (hv.member_apply List.mem_cons_self hc n)]
  exact hcall c hc

/-- The rows of an answer become models quietly. -/
lemma later_models {b : Builder} (hb : b.connection = connection) (n : Nat) {answer : Value}
    (hc : Changes [] base c.work.heap) (hanswer : Fetched c.work.heap answer) :
    Later c (Ask.models (machine (n + 1)) b answer c).2 := by
  have hitems := items_of_isData (c := c) (m := machine (n + 1)) hanswer.1
  unfold Ask.models
  cases hown : ownItems? c.work.heap answer with
  | none =>
    rw [hown] at hitems
    rw [Action.bind_apply_error hitems]
    exact .of_work rfl
  | some rows =>
    rw [hown] at hitems
    rw [Action.bind_apply_ok hitems]
    refine Quiet.through.each (fun row hrow => ?_) c hc
    rw [hb]
    exact hv.quiet_model n b.table (hanswer.2 rows hown row hrow)

/-- An answer is read quietly. -/
lemma later_reading {b : Builder} (hb : b.connection = connection) (n : Nat) (what : Ask)
    {answer : Value} (hc : Changes [] base c.work.heap) (hanswer : Fetched c.work.heap answer) :
    Later c (what.reading (machine (n + 1)) b answer c).2 := by
  have hmodels : ∀ {f : List Value → Run Value}, (∀ found, Quiet base (f found)) →
      Later c ((Ask.models (machine (n + 1)) b answer >>= f) c).2 := fun hf =>
    (hv.later_models hb n hc hanswer).bind fun found d _ hd => hf found d (hc.trans hd.heap)
  cases what with
  | all => exact hmodels fun found => .newList found
  | first => exact hmodels fun found => .pure _
  | count =>
    refine (Quiet.isTrue answer).bind (fun found => ?_) c hc
    split
    · exact .elementAt answer _
    · exact .pure _
  | anyRow =>
    refine Quiet.bind ((Quiet.isTrue answer).bind fun found => ?_) (fun _ => .pure _) c hc
    split
    · exact (Quiet.elementAt answer _).bind fun x => .isTrue x
    · exact .pure _
  | execute => exact .of_work rfl

/-- **A statement is sent and its answer is read**, and nothing that is there is changed. -/
theorem quiet_exchange {b : Builder} (hb : b.connection = connection) (n : Nat) (what : Ask)
    (q : Bound Value) : Quiet base (sent (machine (n + 1)) connection what.via q >>= fun answer =>
      what.reading (machine (n + 1)) b answer) := by
  have hvia : what.via ∈ statementNames := by cases what <;> decide
  obtain ⟨hquiet, hfetched⟩ := hv.quiet_sent hvia n q
  exact fun c hc => (hquiet c hc).bind fun answer d h hd =>
    hv.later_reading hb n what (hc.trans hd.heap) (hfetched c d answer hc h)

end Connects

end PgSchema.Object
