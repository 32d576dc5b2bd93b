import PgSchema.Proofs.Object.Accounts

/-!
Deeds on builders.

A deed of a program makes a builder, derives one from a relation, calls a method of one, or only
looks (`Does`).  Each of them does to the builders what the account says that it does, and nothing
else (`done_of_does`).
-/

namespace PgSchema.Object

open Builder (Draft draft fresh planted)
open Session (Arg Deed callFunction callKnown evalArg evalArgs machine plainModel register runDeed)

/-! ### Functions and their arguments -/

/-- The function of a method. -/
def Found.function? (name : String) : Found → Option Function
  | defined (.function f) => some f
  | feature owner (.method _) => some (.known owner name)
  | _ => none

/-- The function of a method of a builder. -/
def Builder.function? (b : Builder) (h : Heap) (name : String) : Option Function :=
  (classMember? h b.cls name).bind (Found.function? name)

/-- **How a function matches arguments with its parameters.** -/
def Function.accept? (h : Heap) (f : Function) (given : List Value) (named : Entries Value) :
    Option (Except Fault Matched) :=
  match f with
  | .known owner name =>
    match (features owner).get? name with
    | some (.method g) => some (g.signature.accept given named)
    | _ => none
  | .defined id => (h.definition? id).map fun d => d.signature.accept given named
  | _ => none

section Functions

variable {base h : Heap} {c : Course State} {f : Function}

/-- **A call runs on its arguments as they are matched**, and on nothing else of them. -/
lemma exists_body (f : Function) (m : Machine) (c : Course State) : ∃ body : Matched → Run Value,
    ∀ given named r, f.accept? c.work.heap given named = some r →
      callFunction m f given named c = (Action.check r >>= body) c := by
  cases f with
  | known owner name =>
    cases hfeature : (features owner).get? name with
    | none =>
      refine ⟨fun _ => pure .null, fun given named r h => ?_⟩
      rw [Function.accept?, hfeature] at h
      cases h
    | some feature =>
      cases feature with
      | method g =>
        refine ⟨g.run m, fun given named r h => ?_⟩
        rw [Function.accept?, hfeature] at h
        obtain rfl := Option.some.inj h
        change callKnown m owner name given named c = _
        unfold callKnown
        rw [hfeature]
      | _ =>
        refine ⟨fun _ => pure .null, fun given named r h => ?_⟩
        rw [Function.accept?, hfeature] at h
        cases h
  | defined id =>
    cases hid : c.work.heap.definition? id with
    | none =>
      refine ⟨fun _ => pure .null, fun given named r h => ?_⟩
      rw [Function.accept?, hid] at h
      cases h
    | some d =>
      obtain ⟨body, hbody⟩ : ∃ body, ∀ given named,
          d.run m given named = Action.check (d.signature.accept given named) >>= body :=
        ⟨_, fun _ _ => rfl⟩
      refine ⟨body, fun given named r h => ?_⟩
      rw [Function.accept?, hid] at h
      obtain rfl := Option.some.inj h
      unfold callFunction
      refine (Action.bind_apply_ok (heap_apply c) _).trans ?_
      dsimp only
      rw [hid, ← hbody]
  | _ => exact ⟨fun _ => pure .null, fun _ _ _ h => nomatch h⟩

/-- Functions match arguments as before, where nothing is changed. -/
lemma accept?_later (hc : Changes [] base h) {given : List Value} {named : Entries Value}
    {r : Except Fault Matched} (hr : f.accept? base given named = some r) :
    f.accept? h given named = some r := by
  cases f with
  | defined id =>
    obtain ⟨d, hid, hd⟩ := Option.map_eq_some_iff.1 hr
    have hlt : id < base.size := by
      by_contra hge
      rw [Heap.definition?, Array.getElem?_eq_none (Nat.not_lt.1 hge)] at hid
      cases hid
    have hsame : h.definition? id = some d := by
      rw [Heap.definition?, hc.others id hlt List.not_mem_nil]
      exact hid
    rw [Function.accept?, hsame]
    exact congrArg some hd
  | _ => exact hr

/-- Arguments that are matched alike make the same call. -/
lemma callFunction_congr (m : Machine) {given given' : List Value} {named named' : Entries Value}
    {r : Except Fault Matched} (hr : f.accept? c.work.heap given named = some r)
    (hr' : f.accept? c.work.heap given' named' = some r) :
    callFunction m f given named c = callFunction m f given' named' c := by
  obtain ⟨body, hbody⟩ := exists_body f m c
  rw [hbody _ _ _ hr, hbody _ _ _ hr']

/-- A call is refused if its arguments cannot be matched. -/
lemma callFunction_refused (m : Machine) {given : List Value} {named : Entries Value}
    {fault : Fault} (hr : f.accept? c.work.heap given named = some (.error fault)) :
    callFunction m f given named c = (.error (.fault fault), c) := by
  obtain ⟨body, hbody⟩ := exists_body f m c
  rw [hbody _ _ _ hr]
  rfl

end Functions

namespace Builder

variable {b : Builder} {base h : Heap} {c : Course State} {kept : Part → List Value}
  {bounds : Edge → Value} {name : String} {f : Function}

/-- The functions of a builder stay the same, where nothing is changed. -/
lemma function?_later (hc : Changes [] base h) (hplaces : ∀ id ∈ b.cls.places, id < base.size) :
    b.function? h name = b.function? base name := by
  unfold function?
  rw [classMember?_congr fun id hid => hc.attributes_eq (hplaces id hid) List.not_mem_nil]

/-- **A method is found on a builder** that has nothing else under its name. -/
lemma Keeps.member_function (hk : b.Keeps c.work.heap kept bounds) (m : Machine)
    (hf : b.function? c.work.heap name = some f) (hown : b.own? bounds name = none) :
    memberOf m b.value name c = (.ok (.method b.value f), c) := by
  obtain ⟨found, hfound, hfunction⟩ := Option.bind_eq_some_iff.1 hf
  have hnone : (c.work.heap.attributes b.id).get? name = none := by rw [hk.get?, hown]
  have hrecorder : b.cls ≠ Recorder.cls := by
    refine hk.isKind.ne_recorder ?_
    cases b.kind <;> decide
  refine (member_of_class hrecorder hfound hnone).trans ?_
  unfold Found.function? at hfunction
  split at hfunction
  · obtain rfl := Option.some.inj hfunction
    rfl
  · obtain rfl := Option.some.inj hfunction
    rfl
  · cases hfunction

/-- The methods of the library that narrow builders. -/
def narrowingNames : List String := ["where", "in_", "order_by", "set", "limit", "offset"]

/-- A call that a builder takes is called like a method of the library, or like a condition. -/
lemma Call.name_notMem {call : Call} (hfits : call.Fits b h) {names : List String}
    (hlibrary : ∀ name ∈ narrowingNames, name ∉ names) (hfind : "find" ∉ names)
    (hconditions : ∀ k ∈ Codegen.OperationKind.conditions, ∀ other ∈ names,
      ¬ ("_" ++ k.text).toList <:+ other.toList) : call.name ∉ names := by
  cases call with
  | condition => exact hfits.2.name_notMem hfind hconditions
  | filter => exact hlibrary "where" (by decide)
  | among => exact hlibrary "in_" (by decide)
  | order => exact hlibrary "order_by" (by decide)
  | assign => exact hlibrary "set" (by decide)
  | bound e => exact hlibrary e.text (by cases e <;> decide)

/-- A builder has nothing by itself under the name of a call that it takes. -/
lemma own?_call {call : Call} (hfits : call.Fits b h) : b.own? bounds call.name = none :=
  own?_of_notMem (Call.name_notMem hfits (by decide) (by decide) (by decide))

/-- The calls on builders are none of those that programs write otherwise. -/
lemma Call.name_ne {call : Call} (hfits : call.Fits b h) :
    call.name ≠ "__iter__" ∧ call.name ≠ "__repr__" := by
  have hname : call.name ∉ ["__iter__", "__repr__"] :=
    Call.name_notMem hfits (by decide) (by decide) (by decide)
  simp only [List.mem_cons, List.not_mem_nil, or_false, not_or] at hname
  exact hname

/-- A builder takes the calls that it took, where nothing is changed. -/
lemma Call.Fits.later {call : Call} (hc : Changes [] base h)
    (hplaces : ∀ id ∈ b.cls.places, id < base.size) (hfits : call.Fits b base) :
    call.Fits b h := by
  cases call with
  | condition =>
    have hthere : ∀ id ∈ b.cls.places, id < base.size ∧ id ∉ [] :=
      fun id hid => ⟨hplaces id hid, List.not_mem_nil⟩
    exact ⟨hfits.1.of_changes hc hthere fun _ hid => absurd hid List.not_mem_nil, hfits.2⟩
  | _ => exact hfits

end Builder

/-! ### Arguments of deeds -/

section Arguments

variable {base : Heap}

lemma quiet_plainModel (attributes : Entries Json) : Quiet base (plainModel attributes) := by
  refine Quiet.bind (Quiet.through.each fun e _ => ?_) fun values => .newObject _ _
  exact (Quiet.ofJson e.2).bind fun _ => .pure _

lemma quiet_evalArg (x : Arg) : Quiet base (evalArg x) := by
  have hwork : Quiet base (Action.work : Run State) := fun _ _ => .of_work rfl
  cases x with
  | data value => exact .ofJson value
  | model attributes => exact quiet_plainModel attributes
  | models all =>
    exact (Quiet.through.each fun attributes _ => quiet_plainModel attributes).bind
      fun models => .newList models
  | factory | task => exact .pure _
  | table name =>
    refine hwork.bind fun s => ?_
    split
    · exact .pure _
    · exact .refuse _
  | register name =>
    refine hwork.bind fun s => ?_
    split
    · exact .pure _
    · exact .refuse _

/-- **Arguments are evaluated quietly.** -/
lemma quiet_evalArgs (args named : List Arg) (names : List String) :
    Quiet base (evalArgs args named names) :=
  (Quiet.through.each fun x _ => quiet_evalArg x).bind fun _ =>
    (Quiet.through.each fun x _ => quiet_evalArg x).bind fun _ => .pure _

end Arguments

section Calls

variable {c : Course State} {x name : String} {v : Value}

/-- A call of a method of what a register holds. -/
lemma runDeed_call (hx : c.work.registers.get? x = some v)
    (hname : name ≠ "__iter__" ∧ name ≠ "__repr__") (m : Machine) (args named : List Arg)
    (names : List String) : runDeed m (.call x name args named names) c =
      (m.member v name >>= fun f => evalArgs args named names >>= fun given =>
        m.call f given.1 given.2) c := by
  have hregister : register x (.noRegister x) c = (.ok v, c) := by
    refine (Action.bind_apply_ok (work_apply c) _).trans ?_
    rw [hx]
    rfl
  rw [runDeed]
  · exact Action.bind_apply_ok hregister _
  · exact hname.1
  · exact hname.2

/-- A call without arguments. -/
lemma runDeed_plain (hx : c.work.registers.get? x = some v)
    (hname : name ≠ "__iter__" ∧ name ≠ "__repr__") (m : Machine) :
    runDeed m (.call x name [] [] []) c = m.callMethod v name [] c :=
  runDeed_call hx hname m [] [] []

end Calls

/-! ### Looking -/

namespace Builder

variable {b : Builder} {base : Heap} {c : Course State} {d : Draft}

/-- **A builder is rendered quietly.** -/
lemma later_render (hk : b.Holds c.work.heap d) (hd : d.Bounded) {name : String}
    (hname : name = "where_clause" ∨ name = "to_sql" ∧ b.kind ≠ .relation) (n : Nat) :
    Later c ((machine (n + 2)).callMethod b.value name [] c).2 := by
  rcases hname with rfl | ⟨rfl, hkind⟩
  · rw [whereClause_apply hk]
    exact .of_work rfl
  · have hbound : ∀ q : Query.Bound Value, Quiet c.work.heap (boundValue q) :=
      fun q => (Quiet.newList q.2).bind fun _ => .pure _
    rw [toSql_apply hk hd hkind]
    exact (Quiet.check _).bind hbound c (.refl _ _)

/-- **A builder is asked quietly.** -/
lemma later_ask (hk : b.Holds c.work.heap d) (hd : d.Bounded) {what : Ask}
    (hwhat : what ∈ b.kind.asks) (hv : Connects base b.connection)
    (hc : Changes [] base c.work.heap) (n : Nat) :
    Later c ((machine (n + 2)).callMethod b.value what.method [] c).2 := by
  rw [ask_apply hk hd hwhat]
  exact (Quiet.check _).bind (fun q => hv.quiet_exchange rfl n what q) c hc

/-- **A relation is asked quietly**, by a selector that is derived for the purpose. -/
lemma later_through (hk : b.Holds c.work.heap d) (hrelation : b.kind = .relation) {what : Ask}
    (hwhat : what = .all ∨ what = .count) {cls : Class}
    (hlink : b.cls.Hands c.work.heap .selector cls) (hcls : cls.Makes c.work.heap .selector)
    (hv : Connects base b.connection) (hc : Changes [] base c.work.heap) (n : Nat) :
    Later c ((machine (n + 5)).callMethod b.value what.method [] c).2 := by
  let s := fresh .selector cls b.connection b.table c.work.heap.size
  have hgrown : Later c (c.withHeap
      (planted c.work.heap s (d.kept .clauses) (d.kept .bindings))) :=
    ⟨c.work.heap.changes_grown _ _, rfl⟩
  have hasks : what ∈ Kind.asks .selector := by rcases hwhat with rfl | rfl <;> decide
  have hderived := derive_apply hk hrelation (by decide) hlink hcls n
  rw [callMethod_through hk hrelation hwhat, Action.bind_apply_ok hderived]
  have hs : s.Holds _ d.predicates := holds_planted hcls b.connection b.table
  refine hgrown.trans ?_
  exact later_ask (b := s) hs d.bounded_predicates hasks hv (hc.trans hgrown.heap) (n + 2)

end Builder

/-! ### Deeds -/

/-- What a deed does to the builders of a program. -/
inductive Act where
  /-- A builder is made. -/
  | make (m : Begun)
  /-- A call is made on a builder. -/
  | call (i : Nat) (call : Builder.Call)
  /-- Nothing. -/
  | look

/-- The lists that a class of builders is called with, and what the builder begins with. -/
def BegunFrom (h : Heap) (given : List Value) (origin : Draft) : Prop :=
  given = [] ∧ origin = [] ∨ ∃ i j, given = [.list i, .list j] ∧ origin.predicates = origin ∧
    h[i]? = some (.list (origin.kept .clauses)) ∧ h[j]? = some (.list (origin.kept .bindings))

namespace Account

/-- A register holds a builder. -/
structure Holds (a : Account) (x : String) (i : Nat) (m : Begun) : Prop where
  named : a.names x = some i
  member : a.members[i]? = some m

/-- **What deeds do.**  They are done behind a module, whose heap is the base: its classes are made
and its conditions are called.  A register stands for the builder that it holds, whichever step has
put it there. -/
inductive Does (n : Nat) (base : Heap) (a : Account) (c : Course State) : Deed → Act → Prop
  /-- A class of builders is called on a connection and a table, behind the arguments. -/
  | make {deed : Deed} {kind : Kind} {cls : Class} {connection : Value} {t : Table}
      {given : List Value} {origin : Draft} {d : Course State} (depth : Nat) (hlater : Later c d)
      (hrun : runDeed (machine (n + 5)) deed c =
        (machine (depth + 2)).call (.cls cls) (connection :: .table t :: given) [] d)
      (hgiven : BegunFrom d.work.heap given origin) (hcls : cls.Makes base kind) :
      Does n base a c deed (.make ⟨fresh kind cls connection t d.work.heap.size, origin⟩)
  /-- A builder is derived from a relation, and begins with the predicates of the relation. -/
  | derive {x : String} {i : Nat} {r : Begun} {kind : Kind} {cls : Class} (hx : a.Holds x i r)
      (hrelation : r.builder.kind = .relation) (hkind : kind ≠ .relation)
      (hlink : r.builder.cls.Hands base kind cls) (hcls : cls.Makes base kind) :
      Does n base a c (.call x kind.word [] [] []) (.make
        ⟨fresh kind cls r.builder.connection r.builder.table c.work.heap.size,
          (a.draft i r).predicates⟩)
  /-- A builder gets a call that narrows it, however the arguments are written. -/
  | call {x : String} {i : Nat} {m : Begun} {call : Builder.Call} {args named : List Arg}
      {names : List String} {xs given : List Value} {ys : Entries Value} {d : Course State}
      {f : Function} {r : Except Fault Matched} (hx : a.Holds x i m)
      (hfits : call.Fits m.builder base) (hf : m.builder.function? base call.name = some f)
      (hargs : evalArgs args named names c = (.ok (xs, ys), d))
      (hwritten : f.accept? base (m.builder.value :: xs) ys = some r)
      (hmeant : f.accept? base (m.builder.value :: given) [] = some r)
      (hgiven : call.Given d.work.heap given) :
      Does n base a c (.call x call.name args named names) (.call i call)
  /-- A method of a builder is called with arguments that it does not take. -/
  | refuse {x : String} {i : Nat} {m : Begun} {name : String} {args named : List Arg}
      {names : List String} {f : Function} (hx : a.Holds x i m)
      (hname : name ≠ "__iter__" ∧ name ≠ "__repr__") (hown : name ∉ ownNames)
      (hf : m.builder.function? base name = some f)
      (hargs : ∀ xs ys d, evalArgs args named names c = (.ok (xs, ys), d) →
        ∃ fault, f.accept? base (m.builder.value :: xs) ys = some (.error fault)) :
      Does n base a c (.call x name args named names) .look
  /-- A builder is rendered. -/
  | render {x : String} {i : Nat} {m : Begun} {name : String} (hx : a.Holds x i m)
      (hname : name = "where_clause" ∨ name = "to_sql" ∧ m.builder.kind ≠ .relation) :
      Does n base a c (.call x name [] [] []) .look
  /-- A builder is asked for something over its connection. -/
  | ask {x : String} {i : Nat} {m : Begun} {what : Ask} (hx : a.Holds x i m)
      (hwhat : what ∈ m.builder.kind.asks) (hv : Connects base m.builder.connection) :
      Does n base a c (.call x what.method [] [] []) .look
  /-- A relation is asked for something. -/
  | through {x : String} {i : Nat} {r : Begun} {what : Ask} {cls : Class} (hx : a.Holds x i r)
      (hrelation : r.builder.kind = .relation) (hwhat : what = .all ∨ what = .count)
      (hlink : r.builder.cls.Hands base .selector cls) (hcls : cls.Makes base .selector)
      (hv : Connects base r.builder.connection) :
      Does n base a c (.call x what.method [] [] []) .look

/-- The registers of an account, where one of them gets something else. -/
def noted (a : Account) (target : Option String) (i : Option Nat) : String → Option Nat :=
  match target with
  | some x => Function.update a.names x i
  | none => a.names

/-- The account behind a deed that has been done. -/
def after (a : Account) (target : Option String) : Act → Account
  | .make m => { a with members := a.members ++ [m]
                        names := a.noted target (some a.members.length) }
  | .call i call => { a with log := a.log ++ [(i, call)], names := a.noted target (some i) }
  | .look => { a with names := a.noted target none }

/-- **The account behind a deed**, by its outcome: one that fails is not entered. -/
def next (a : Account) (r : Except Failure Value) (target : Option String) (act : Act) : Account :=
  match r with
  | .ok _ => a.after target act
  | .error _ => a

/-- What a deed gives is the builder that it is about. -/
def Gives (a : Account) (v : Value) : Act → Prop
  | .make m => v = m.builder.value
  | .call i _ => ∃ m, a.members[i]? = some m ∧ v = m.builder.value
  | .look => True

/-- **A course that is as the account tells.** -/
structure Stands (base : Heap) (a : Account) (c : Course State) : Prop where
  kept : a.Kept base c.work.heap
  named : ∀ x i, a.names x = some i →
    ∃ m, a.members[i]? = some m ∧ c.work.registers.get? x = some m.builder.value

/-- **A deed that has been done** as its act tells: the builders keep what the account behind it
tells, the registers hold what they held, and what it gives is the builder that it is about. -/
structure Done (base : Heap) (a : Account) (c : Course State)
    (run : Except Failure Value × Course State) (target : Option String) (act : Act) : Prop where
  kept : (a.next run.1 target act).Kept base run.2.work.heap
  registers : run.2.work.registers = c.work.registers
  gives : ∀ v, run.1 = .ok v → a.Gives v act

section Deeds

variable {n : Nat} {base h : Heap} {a : Account} {c d : Course State} {deed : Deed} {act : Act}
  {x : String} {i : Nat} {m : Begun} {kind : Kind} {cls : Class}

/-- The registers do not matter to what builders keep. -/
lemma Kept.renamed (hk : a.Kept base h) (names : String → Option Nat) :
    ({ a with names } : Account).Kept base h :=
  ⟨hk.grown, hk.holds, hk.bounded, hk.above, hk.below, hk.apart, hk.logged⟩

lemma Kept.next_look (hk : a.Kept base h) (r : Except Failure Value) (target : Option String) :
    (a.next r target .look).Kept base h := by
  cases r with
  | ok v => exact hk.renamed _
  | error e => exact hk

/-- Classes make builders as before. -/
lemma Kept.makes (hk : a.Kept base h) (hcls : cls.Makes base kind) : cls.Makes h kind :=
  hcls.of_changes hk.grown fun id hid => ⟨hcls.there id hid, List.not_mem_nil⟩

/-- Relations name the classes that they named. -/
lemma Kept.hands (hk : a.Kept base h) (hm : m ∈ a.members)
    (hlink : m.builder.cls.Hands base kind cls) : m.builder.cls.Hands h kind cls :=
  hlink.of_changes hk.grown fun id hid => ⟨hk.below m hm id hid, List.not_mem_nil⟩

/-- **A builder that begins with predicates** is put at the end of the heap. -/
lemma Kept.plant (hk : a.Kept base h) (hcls : cls.Makes base kind) (connection : Value) (t : Table)
    (origin : Draft) :
    let b := fresh kind cls connection t h.size
    ({ a with members := a.members ++ [⟨b, origin.predicates⟩] } : Account).Kept base
      (planted h b (origin.kept .clauses) (origin.kept .bindings)) := by
  intro b
  have hholds := Builder.holds_planted (d := origin) (hk.makes hcls) connection t
  exact hk.grow (m := ⟨b, origin.predicates⟩) (h.changes_grown _ _) hholds
    origin.bounded_predicates Builder.le_of_mem_fresh hcls.there

/-- A class of builders is called. -/
lemma call_begunFrom {given : List Value} {origin : Draft} (hcls : cls.Makes c.work.heap kind)
    (hgiven : BegunFrom c.work.heap given origin) (n : Nat) (connection : Value) (t : Table) :
    let b := fresh kind cls connection t c.work.heap.size
    (machine (n + 2)).call (.cls cls) (connection :: .table t :: given) [] c =
      (.ok b.value, c.withHeap (planted c.work.heap b (origin.kept .clauses)
        (origin.kept .bindings))) ∧ origin.predicates = origin := by
  rcases hgiven with ⟨rfl, rfl⟩ | ⟨i, j, rfl, horigin, hi, hj⟩
  · exact ⟨Builder.call_class_apply hcls n connection t, rfl⟩
  · exact ⟨Builder.call_class_copied hcls n connection t hi hj, horigin⟩

lemma Holds.registered (hx : a.Holds x i m) (hs : a.Stands base c) :
    c.work.registers.get? x = some m.builder.value := by
  obtain ⟨m', hm', hregister⟩ := hs.named x i hx.named
  obtain rfl := Option.some.inj (hm'.symm.trans hx.member)
  exact hregister

/-- A method of a builder is called with arguments. -/
lemma Holds.runDeed_function (hx : a.Holds x i m) (hs : a.Stands base c) {name : String}
    {f : Function} (hname : name ≠ "__iter__" ∧ name ≠ "__repr__")
    (hown : ∀ bounds, m.builder.own? bounds name = none)
    (hf : m.builder.function? base name = some f) (args named : List Arg) (names : List String) :
    runDeed (machine (n + 5)) (.call x name args named names) c =
      (evalArgs args named names >>= fun given =>
        callFunction (machine (n + 4)) f (m.builder.value :: given.1) given.2) c := by
  have hm := List.mem_of_getElem? hx.member
  have hfound : m.builder.function? c.work.heap name = some f :=
    (Builder.function?_later hs.kept.grown (hs.kept.below m hm)).trans hf
  rw [runDeed_call (hx.registered hs) hname]
  exact Action.bind_apply_ok
    ((hs.kept.holds i m hx.member).member_function (machine (n + 4)) hfound (hown _)) _

/-- A deed that changes nothing that is there. -/
lemma done_look (hs : a.Stands base c) {run : Except Failure Value × Course State}
    (hlater : Later c run.2) (target : Option String) : Done base a c run target .look :=
  ⟨(hs.kept.later hlater.heap).next_look _ target, hlater.registers, fun _ _ => trivial⟩

/-- A method of a builder is called without arguments, and changes nothing that is there. -/
lemma done_plain (hs : a.Stands base c) (hx : a.Holds x i m) {name : String}
    (hname : name ≠ "__iter__" ∧ name ≠ "__repr__")
    (hlater : Later c ((machine (n + 5)).callMethod m.builder.value name [] c).2)
    (target : Option String) :
    Done base a c (runDeed (machine (n + 5)) (.call x name [] [] []) c) target .look := by
  rw [runDeed_plain (hx.registered hs) hname]
  exact done_look hs hlater target

/-- A class of builders is called. -/
lemma done_make (hs : a.Stands base c) {connection : Value} {t : Table} {given : List Value}
    {origin : Draft} (depth : Nat) (hlater : Later c d)
    (hgiven : BegunFrom d.work.heap given origin) (hcls : cls.Makes base kind)
    (target : Option String) :
    Done base a c ((machine (depth + 2)).call (.cls cls) (connection :: .table t :: given) [] d)
      target (.make ⟨fresh kind cls connection t d.work.heap.size, origin⟩) := by
  have hk := hs.kept.later hlater.heap
  obtain ⟨hcall, horigin⟩ := call_begunFrom (hk.makes hcls) hgiven depth connection t
  have hplant := hk.plant hcls connection t origin
  dsimp only at hplant
  rw [horigin] at hplant
  rw [hcall]
  exact ⟨hplant.renamed _, hlater.registers, fun v hv => (Except.ok.inj hv).symm⟩

/-- A builder is derived from a relation. -/
lemma done_derive (hs : a.Stands base c) (hx : a.Holds x i m)
    (hrelation : m.builder.kind = .relation) (hkind : kind ≠ .relation)
    (hlink : m.builder.cls.Hands base kind cls) (hcls : cls.Makes base kind)
    (target : Option String) :
    Done base a c (runDeed (machine (n + 5)) (.call x kind.word [] [] []) c) target (.make
      ⟨fresh kind cls m.builder.connection m.builder.table c.work.heap.size,
        (a.draft i m).predicates⟩) := by
  have hm := List.mem_of_getElem? hx.member
  have hname : kind.word ≠ "__iter__" ∧ kind.word ≠ "__repr__" := by cases kind <;> decide
  have hplant := hs.kept.plant hcls m.builder.connection m.builder.table (a.draft i m)
  rw [runDeed_plain (hx.registered hs) hname, Builder.derive_apply (hs.kept.holds i m hx.member)
    hrelation hkind (hs.kept.hands hm hlink) (hs.kept.makes hcls) (n + 1)]
  exact ⟨hplant.renamed _, rfl, fun v hv => (Except.ok.inj hv).symm⟩

/-- **A builder gets a call that narrows it**, and no other builder is told of it. -/
lemma done_call (hs : a.Stands base c) (hx : a.Holds x i m) {call : Builder.Call}
    {args named : List Arg} {names : List String} {xs given : List Value} {ys : Entries Value}
    {f : Function} {accepted : Except Fault Matched} (hfits : call.Fits m.builder base)
    (hf : m.builder.function? base call.name = some f)
    (hargs : evalArgs args named names c = (.ok (xs, ys), d))
    (hwritten : f.accept? base (m.builder.value :: xs) ys = some accepted)
    (hmeant : f.accept? base (m.builder.value :: given) [] = some accepted)
    (hgiven : call.Given d.work.heap given) (target : Option String) :
    Done base a c (runDeed (machine (n + 5)) (.call x call.name args named names) c) target
      (.call i call) := by
  have hbelow := hs.kept.below m (List.mem_of_getElem? hx.member)
  have hown : ∀ bounds, m.builder.own? bounds call.name = none :=
    fun bounds => Builder.own?_call hfits
  have hlater : Later c d := by
    have hon := quiet_evalArgs args named names c hs.kept.grown
    rwa [hargs] at hon
  have hk := hs.kept.later hlater.heap
  have hholds := hk.holds i m hx.member
  have hfound : m.builder.function? d.work.heap call.name = some f :=
    (Builder.function?_later hk.grown hbelow).trans hf
  -- the call is made as if its arguments had been written by their place
  have hmade : runDeed (machine (n + 5)) (.call x call.name args named names) c =
      (machine (n + 5)).callMethod m.builder.value call.name given d := by
    rw [hx.runDeed_function hs (Builder.Call.name_ne hfits) hown hf, Action.bind_apply_ok hargs,
      Machine.callMethod, Action.bind_apply_ok
        (show (machine (n + 5)).member m.builder.value call.name d = _ from
          hholds.member_function (machine (n + 4)) hfound (hown _))]
    exact callFunction_congr (machine (n + 4)) (accept?_later hk.grown hwritten)
      (accept?_later hk.grown hmeant)
  obtain ⟨r, hr, h, hturns, hchanges, hkeeps⟩ := Builder.turns_call hholds
    (hfits.later hk.grown hbelow) hgiven n (a.calls i).length
  rw [hmade, hturns]
  refine ⟨?_, hlater.registers, fun v hv => ⟨m, hx.member, ?_⟩⟩
  · cases r with
    | ok v =>
      refine (hk.turn hx.member hchanges (a.log ++ [(i, call)]) ?_ ?_ ?_).renamed _
      · refine List.forall_mem_append.2 ⟨hk.logged, List.forall_mem_singleton.2 ?_⟩
        exact (List.getElem?_eq_some_iff.1 hx.member).1
      · rw [draft_snoc]
        exact hkeeps
      · exact fun j hne => calls_snoc_ne hne
    | error e =>
      -- a call that fails has nothing to put in
      have hnone : call.adds? m.builder.table = none := Option.map_eq_none_iff.1 hr.symm
      rw [hnone] at hkeeps
      refine hk.turn hx.member hchanges a.log hk.logged ?_ fun _ _ => rfl
      exact (List.append_nil (a.draft i m)) ▸ hkeeps
  · obtain rfl := hv
    obtain ⟨entry, -, hvalue⟩ := Option.map_eq_some_iff.1 hr.symm
    exact hvalue.symm

/-- A method is called with arguments that it does not take, or that cannot be evaluated. -/
lemma done_refuse (hs : a.Stands base c) (hx : a.Holds x i m) {name : String}
    {args named : List Arg} {names : List String} {f : Function}
    (hname : name ≠ "__iter__" ∧ name ≠ "__repr__") (hown : name ∉ ownNames)
    (hf : m.builder.function? base name = some f)
    (hargs : ∀ xs ys d, evalArgs args named names c = (.ok (xs, ys), d) →
      ∃ fault, f.accept? base (m.builder.value :: xs) ys = some (.error fault))
    (target : Option String) :
    Done base a c (runDeed (machine (n + 5)) (.call x name args named names) c) target .look := by
  refine done_look hs ?_ target
  rw [hx.runDeed_function hs hname (fun _ => Builder.own?_of_notMem hown) hf]
  have hlater := quiet_evalArgs args named names c hs.kept.grown
  rcases hevaluated : evalArgs args named names c with ⟨e | given, d⟩ <;>
    rw [hevaluated] at hlater
  · rw [Action.bind_apply_error hevaluated]
    exact hlater
  · obtain ⟨fault, hfault⟩ := hargs given.1 given.2 d hevaluated
    rw [Action.bind_apply_ok hevaluated, callFunction_refused _
      (accept?_later (hs.kept.grown.trans hlater.heap) hfault)]
    exact hlater

/-- **What a deed does to the builders.** -/
theorem done_of_does (hs : a.Stands base c) (h : Does n base a c deed act)
    (target : Option String) : Done base a c (runDeed (machine (n + 5)) deed c) target act := by
  cases h with
  | make depth hlater hrun hgiven hcls =>
    rw [hrun]
    exact done_make hs depth hlater hgiven hcls target
  | derive hx hrelation hkind hlink hcls =>
    exact done_derive hs hx hrelation hkind hlink hcls target
  | call hx hfits hf hargs hwritten hmeant hgiven =>
    exact done_call hs hx hfits hf hargs hwritten hmeant hgiven target
  | refuse hx hname hown hf hargs => exact done_refuse hs hx hname hown hf hargs target
  | render hx hname =>
    refine done_plain hs hx (by rcases hname with rfl | ⟨rfl, -⟩ <;> decide) ?_ target
    exact Builder.later_render (hs.kept.holds _ _ hx.member) (hs.kept.bounded_draft hx.member)
      hname (n + 3)
  | @ask x i m what hx hwhat hv =>
    refine done_plain hs hx (by cases what <;> decide) ?_ target
    exact Builder.later_ask (hs.kept.holds i m hx.member) (hs.kept.bounded_draft hx.member) hwhat hv
      hs.kept.grown (n + 3)
  | @through x i m what cls hx hrelation hwhat hlink hcls hv =>
    refine done_plain hs hx (by cases what <;> decide) ?_ target
    exact Builder.later_through (hs.kept.holds i m hx.member) hrelation hwhat
      (hs.kept.hands (List.mem_of_getElem? hx.member) hlink) (hs.kept.makes hcls) hv
      hs.kept.grown n

end Deeds

end Account

end PgSchema.Object
