import PgSchema.Proofs.Object.Deeds

/-!
Programs that work on builders.

A program that makes builders, calls their methods and looks at them keeps an account as it goes
(`Follows`).  At any time each of its builders keeps what it began with, and what the calls on it
have put in since, and nothing else (`builders_independent`).
-/

namespace PgSchema.Object

open Builder (fresh)
open Session (Deed answered machine runAwaited runDeed settle)

/-! ### Steps -/

/-- A course in which a step begins: no task of it has been answered yet. -/
def opened (c : Course State) : Course State := { c with work := { c.work with inner := [] } }

/-- A course with a value in a register, if there is a register for it. -/
def withTarget (c : Course State) (target : Option String) (v : Value) : Course State :=
  match target with
  | some x => { c with work := { c.work with registers := c.work.registers.put x v } }
  | none => c

section Steps

variable {m : Machine} {deed : Deed} {c d : Course State}

lemma heap_withTarget (target : Option String) (v : Value) :
    (withTarget d target v).work.heap = d.work.heap := by
  cases target <;> rfl

lemma get?_withTarget_ne {target : Option String} {x : String} (hne : target ≠ some x) (v : Value) :
    (withTarget d target v).work.registers.get? x = d.work.registers.get? x := by
  cases target with
  | none => rfl
  | some y => exact Entries.get?_put_of_ne fun heq => hne (congrArg some heq.symm)

/-- A deed that is awaited is settled: its value is in the register, and nothing else is done. -/
lemma settle_awaited {w : Value} {deferred : Bool}
    (hawaited : runAwaited m deed c = (.ok (w, deferred), d)) (target : Option String) :
    (settle m deed target c).2 = withTarget d target w := by
  have hshown : ∀ d : Course State, ((showValue w >>= fun shown =>
      (pure (shown, deferred) : Run (Json × Bool))) d).2 = d := by
    intro d
    have hheap : showValue w d = Action.check (shown d.work.heap shownDepth w) d := rfl
    cases hw : shown d.work.heap shownDepth w with
    | error fault =>
      rw [hw] at hheap
      rw [Action.bind_apply_error hheap]
    | ok text =>
      rw [hw] at hheap
      rw [Action.bind_apply_ok hheap]
      rfl
  rw [settle, Action.bind_apply_ok hawaited]
  cases target with
  | some x => exact hshown _
  | none => exact hshown _

/-- **How a deed is settled.**  What it gives is put in the register for it, unless the deed fails,
or what it has handed to the workers does. -/
lemma settle_apply {r : Except Failure Value} (hrun : runDeed m deed c = (r, d))
    (target : Option String) :
    ∃ kept w, (settle m deed target c).2 = withTarget d kept w ∧
      (kept = none ∨ kept = target ∧ ∃ v, r = .ok v) ∧
        ∀ v, r = .ok v → (∀ o, v ≠ .future o) → kept = target ∧ w = v := by
  have hfailed : ∀ {e : Failure}, runAwaited m deed c = (.error e, d) →
      (settle m deed target c).2 = withTarget d none .null := by
    intro e hawaited
    rw [settle, Action.bind_apply_error hawaited]
    rfl
  cases r with
  | error e => exact ⟨none, .null, hfailed (Action.bind_apply_error hrun _), .inl rfl, nofun⟩
  | ok v =>
    have hawaited : runAwaited m deed c = _ := Action.bind_apply_ok hrun _
    split at hawaited
    · rename_i outcome
      have hfuture : ∀ v : Value, (.ok (.future outcome) : Except Failure Value) = .ok v →
          ¬ ∀ o, v ≠ .future o := fun v hv hne => hne outcome (Except.ok.inj hv).symm
      cases outcome with
      | error e =>
        exact ⟨none, .null, hfailed hawaited, .inl rfl, fun v hv hne => absurd hne (hfuture v hv)⟩
      | ok w =>
        exact ⟨target, w, settle_awaited hawaited target, .inr ⟨rfl, _, rfl⟩,
          fun v hv hne => absurd hne (hfuture v hv)⟩
    · exact ⟨target, v, settle_awaited hawaited target, .inr ⟨rfl, _, rfl⟩,
        fun v hv _ => ⟨rfl, Except.ok.inj hv⟩⟩

end Steps

namespace Account

section Programs

variable {n : Nat} {base : Heap} {a a' : Account} {c d : Course State} {deed : Deed} {act : Act}

/-- Builders keep their numbers. -/
lemma after_members {i : Nat} {m : Begun} (hm : a.members[i]? = some m) (target : Option String)
    (act : Act) : (a.after target act).members[i]? = some m := by
  cases act with
  | make m' => exact (List.getElem?_append_left (List.getElem?_eq_some_iff.1 hm).1).trans hm
  | call | look => exact hm

/-- A register that gets nothing stands for what it stood for. -/
lemma names_after_of_ne {x : String} {target : Option String} (hne : target ≠ some x) (act : Act) :
    (a.after target act).names x = a.names x := by
  have hnoted : ∀ i, a.noted target i x = a.names x := by
    intro i
    cases target with
    | none => rfl
    | some y => exact Function.update_of_ne (fun heq => hne (congrArg some heq.symm)) _ _
  cases act <;> exact hnoted _

/-- A register that gets something stands for the builder that it gets. -/
lemma exists_after {v : Value} {x : String} {i : Nat} (hgives : a.Gives v act)
    (hx : (a.after (some x) act).names x = some i) :
    ∃ m, (a.after (some x) act).members[i]? = some m ∧ v = m.builder.value := by
  have hnoted : ∀ i', a.noted (some x) i' x = i' := by
    intro i'
    exact Function.update_self (f := a.names) x i'
  cases act with
  | make m =>
    obtain rfl : a.members.length = i := Option.some.inj ((hnoted _).symm.trans hx)
    exact ⟨m, List.getElem?_concat_length, hgives⟩
  | call j call =>
    obtain rfl : j = i := Option.some.inj ((hnoted _).symm.trans hx)
    exact hgives
  | look => cases (hnoted _).symm.trans hx

/-- **One step.**  A course that is as the account tells becomes one that is as the account behind
the step tells. -/
theorem stands_answered (hs : a.Stands base c) (h : Does n base a (opened c) deed act)
    (target : Option String) (caught : Bool) :
    (a.next (runDeed (machine (n + 5)) deed (opened c)).1 target act).Stands base
      (answered (machine (n + 5)) (.make deed target caught) c).2 := by
  have hopened : a.Stands base (opened c) := ⟨hs.kept, hs.named⟩
  have hdone := done_of_does hopened h target
  rcases hrun : runDeed (machine (n + 5)) deed (opened c) with ⟨r, d⟩
  rw [hrun] at hdone
  obtain ⟨hkept, hregisters, hgives⟩ := hdone
  obtain ⟨kept, w, hsettled, hwhich, hvalue⟩ := settle_apply hrun target
  have hheap : (answered (machine (n + 5)) (.make deed target caught) c).2.work.heap =
      d.work.heap := (congrArg (·.work.heap) hsettled).trans (heap_withTarget kept w)
  have hregister : (answered (machine (n + 5)) (.make deed target caught) c).2.work.registers =
      (withTarget d kept w).work.registers := congrArg (·.work.registers) hsettled
  -- a register that gets nothing holds what it held
  have hother : ∀ x i, kept ≠ some x → a.names x = some i → ∃ m, a.members[i]? = some m ∧
      (withTarget d kept w).work.registers.get? x = some m.builder.value := by
    intro x i hne hx
    obtain ⟨m, hm, hheld⟩ := hs.named x i hx
    refine ⟨m, hm, ?_⟩
    rw [get?_withTarget_ne hne, hregisters]
    exact hheld
  refine ⟨by rw [hheap]; exact hkept, fun x i hx => ?_⟩
  rw [hregister]
  cases r with
  | error e =>
    obtain rfl : kept = none := hwhich.resolve_right fun ⟨_, _, h⟩ => nomatch h
    exact hother x i nofun hx
  | ok v =>
    by_cases htarget : target = some x
    · subst htarget
      obtain ⟨m, hm, rfl⟩ := exists_after (hgives v rfl) hx
      -- a builder is not settled any further
      obtain ⟨rfl, rfl⟩ := hvalue m.builder.value rfl nofun
      exact ⟨m, hm, Entries.get?_put_self _ _ _⟩
    · have hne : kept ≠ some x := by
        rcases hwhich with rfl | ⟨rfl, -⟩
        · nofun
        · exact htarget
      obtain ⟨m, hm, hheld⟩ := hother x i hne ((names_after_of_ne htarget act).symm.trans hx)
      exact ⟨m, after_members hm target act, hheld⟩

/-! ### Programs -/

/-- **A program and its account**: every step does something to the builders, behind the steps
before it. -/
inductive Follows (n : Nat) (base : Heap) :
    Account → Course State → Session.Program → Account → Course State → Prop
  | done (a : Account) (c : Course State) : Follows n base a c [] a c
  | step {a a' : Account} {c d : Course State} {deed : Deed} {act : Act} {target : Option String}
      {caught : Bool} {rest : Session.Program} (h : Does n base a (opened c) deed act)
      (hrest : Follows n base
        (a.next (runDeed (machine (n + 5)) deed (opened c)).1 target act)
        (answered (machine (n + 5)) (.make deed target caught) c).2 rest a' d) :
      Follows n base a c (.make deed target caught :: rest) a' d

/-- **All steps.** -/
theorem stands_of_follows {steps : Session.Program} (hs : a.Stands base c)
    (h : Follows n base a c steps a' d) :
    (Action.each (answered (machine (n + 5))) steps c).2 = d ∧ a'.Stands base d := by
  induction h with
  | done => exact ⟨rfl, hs⟩
  | @step a a' c d deed act target caught rest h hrest ih =>
    obtain ⟨hrun, hstands⟩ := ih (stands_answered hs h target caught)
    refine ⟨?_, hstands⟩
    -- a step that fails does not end the program
    obtain ⟨answer, hanswer⟩ : ∃ answer,
        answered (machine (n + 5)) (.make deed target caught) c = (.ok answer,
          (answered (machine (n + 5)) (.make deed target caught) c).2) := ⟨_, rfl⟩
    rw [Action.each, Action.bind_apply_ok hanswer, ← hrun]
    rcases hlater : Action.each (answered (machine (n + 5))) rest
      (answered (machine (n + 5)) (.make deed target caught) c).2 with ⟨e | answers, d'⟩
    · rw [Action.bind_apply_error hlater]
    · rw [Action.bind_apply_ok hlater]
      rfl

/-- Before a program begins, nothing is told. -/
lemma stands_empty (c : Course State) : ({} : Account).Stands c.work.heap c where
  kept :=
    { grown := .refl _ _
      holds := fun _ _ hm => by cases hm
      bounded := fun _ hm => absurd hm List.not_mem_nil
      above := fun _ hm => absurd hm List.not_mem_nil
      below := fun _ hm => absurd hm List.not_mem_nil
      apart := fun _ _ _ _ _ hm => by cases hm
      logged := fun _ hx => absurd hx List.not_mem_nil }
  named := fun _ _ hx => by cases hx

/-- What was put into a builder is what it was, unless a call on it was made. -/
lemma draft_next {i : Nat} (m : Begun) {r : Except Failure Value} (target : Option String)
    (hact : ∀ call, act = .call i call → ∃ e, r = .error e) :
    (a.next r target act).draft i m = a.draft i m := by
  cases r with
  | error e => rfl
  | ok v =>
    cases act with
    | make | look => rfl
    | call j call =>
      have hne : i ≠ j := by
        rintro rfl
        obtain ⟨e, he⟩ := hact call rfl
        cases he
      change m.origin ++ Builder.draft _
        (({ a with log := a.log ++ [(j, call)] } : Account).calls i) = _
      rw [calls_snoc_ne hne]
      rfl

end Programs

/-- **A builder is made by name**, by the class of the library for its kind. -/
lemma does_create (kind : Kind) {n : Nat} {base : Heap} {a : Account} {c : Course State}
    {v : Value} {t : Table} {name : Json}
    (hconnection : c.work.registers.get? Session.connectionRegister = some v)
    (htable : Session.tableNamed name c = (.ok (.table t), c)) :
    Does n base a c (.create kind.title name [] [] [])
      (.make ⟨fresh kind (.known kind.title) v t c.work.heap.size, []⟩) := by
  have hcls : (Class.known kind.title).Makes base kind :=
    ⟨.library, fun _ hid => absurd hid List.not_mem_nil,
      fun _ _ _ hid => absurd hid List.not_mem_nil⟩
  have hmaker : Session.maker kind.title c = (.ok (.cls (.known kind.title)), c) := by
    cases kind <;> rfl
  have hregister : Session.register Session.connectionRegister
      (.noKey (.text Session.connectionRegister)) c = (.ok v, c) := by
    refine (Action.bind_apply_ok (work_apply c) _).trans ?_
    rw [hconnection]
    rfl
  refine .make (n + 3) (.of_work rfl) ?_ (.inl ⟨rfl, rfl⟩) hcls
  rw [runDeed, Action.bind_apply_ok hmaker, Action.bind_apply_ok hregister,
    Action.bind_apply_ok htable]
  rfl

/-- **Builders are independent.**  A program makes builders, derives them from relations, puts them
in registers, calls their methods and asks them, in any order.  At any time each builder keeps what
it began with, and behind it what its own calls have put in since, through whichever register, in
order.  A builder that is derived begins with the predicates of its relation as they are then.  The
registers hold the builders that they were given.  A step of any kind changes no builder but the one
that it calls, and that one neither if the call fails. -/
theorem builders_independent {n : Nat} {c d : Course State} {steps : Session.Program} {a : Account}
    (h : Follows n c.work.heap {} c steps a d) :
    (Action.each (answered (machine (n + 5))) steps c).2 = d ∧
      (∀ (i : Nat) (m : Begun), a.members[i]? = some m → m.builder.Holds d.work.heap (a.draft i m) ∧
        ∀ p ∈ m.builder.kind.parts, d.work.heap[m.builder.place p]? = some (.list
          (m.origin.kept p ++ (a.calls i).flatMap (Builder.Call.items m.builder.table p)))) ∧
      (∀ x i, a.names x = some i → ∃ m, a.members[i]? = some m ∧
        d.work.registers.get? x = some m.builder.value) ∧
      ∀ deed act target caught, Does n c.work.heap a (opened d) deed act →
        ∀ (i : Nat) (m : Begun), a.members[i]? = some m →
          (∀ call, act = .call i call →
            ∃ e, (runDeed (machine (n + 5)) deed (opened d)).1 = .error e) →
          ∃ kept bounds, m.builder.Keeps d.work.heap kept bounds ∧ m.builder.Keeps
            (answered (machine (n + 5)) (.make deed target caught) d).2.work.heap kept bounds := by
  obtain ⟨hrun, hs⟩ := stands_of_follows (stands_empty c) h
  refine ⟨hrun, fun i m hm => ⟨hs.kept.holds i m hm, fun p hp => ?_⟩, hs.named,
    fun deed act target caught hdoes i m hm hact => ?_⟩
  · rw [← kept_draft]
    exact (hs.kept.holds i m hm).lists p hp
  · have hnext := (stands_answered hs hdoes target caught).kept
    refine ⟨_, _, hs.kept.holds i m hm, ?_⟩
    rw [← draft_next m target hact]
    refine hnext.holds i m ?_
    rcases (runDeed (machine (n + 5)) deed (opened d)).1 with e | v
    · exact hm
    · exact after_members hm target act

end Account

/-! ### A session with scores -/

namespace Scores

open Account (Does Follows)
open Board (asks relation selector table)

/-- The method of the handle that makes a relation. -/
def method : Definition where
  callee := "Boards.boards"
  name := "boards"
  doc := .null
  placed := 0
  parameters := [("self", none)]
  rest := none
  named := []
  more := none
  body := [.give (some (.call (.name "BoardRelation")
    [.plain (.member (.name "self") "connection"), .plain (.name "BOARD_SCHEMA")]))]

def recorder : Value := .object Recorder.cls 7

/-- The heap of the module, with a handle and its connection. -/
def heap : Heap := Board.heap ++ #[.definition method,
  .attributes [("boards", .function (.defined 4))], .attributes [("connection", recorder)],
  .attributes []]

def start : Course State where
  work :=
    { Board.start.work with
      heap
      registers := [("db", .object (.made "Boards" (.known "object") 5) 6), ("conn", recorder)]
      globals := [("BoardRelation", .cls relation), ("BOARD_SCHEMA", .table table)] }

lemma changes_heap : Changes [] Board.heap heap where
  size := by decide
  others _ hi _ := Array.getElem?_append_left hi

lemma there_relation : ∀ id ∈ relation.places, id < Board.heap.size ∧ id ∉ [] := by decide

lemma there_selector : ∀ id ∈ selector.places, id < Board.heap.size ∧ id ∉ [] := by decide

/-- A relation gets a condition.  A selector is derived from it and gets one through another
register, refuses a bound, and is asked for the number of its rows.  A deleter gets nothing. -/
def steps : Session.Program :=
  [.make (.call "db" "boards" [] [] []) (some "r") false,
    .make (.call "r" "score_gt" [.data (.int 5)] [] []) none false,
    .make (.call "r" "selector" [] [] []) (some "s") false,
    .make (.call "s" "score_in" [.data (.list [.int 7, .int 8])] [] []) (some "t") false,
    .make (.create "Deleter" (.text "board") [] [] []) (some "d") false,
    .make (.call "t" "limit" [.data (.int (-1))] [] []) none false,
    .make (.call "t" "count" [] [] []) (some "n") false]

/-- The relation, the selector and the deleter, with what they begin with. -/
def made : Fin 3 → Begun
  | 0 => ⟨fresh .relation relation recorder table 9, []⟩
  | 1 => ⟨fresh .selector selector recorder table 13, [(0, .clause "\"score\" > %s" [.int 5])]⟩
  | 2 => ⟨fresh .deleter (.known "Deleter") recorder table 19, []⟩

def above : Builder.Call := .condition "score_gt" (asks (.compare .gt)) [.int 5]

def among : Builder.Call := .condition "score_in" (asks (.among false)) [.int 7, .int 8]

def below : Builder.Call := .bound .limit (.int (-1))

lemma fits_above : above.Fits (made 0).builder heap :=
  ⟨Board.has_gt.of_changes changes_heap there_relation nofun, Board.isCondition_gt⟩

lemma fits_among : among.Fits (made 1).builder heap :=
  ⟨Board.has_in.of_changes changes_heap there_selector nofun, Board.isCondition_in⟩

lemma fits_below : below.Fits (made 1).builder heap := rfl

/-- The program makes three builders, and there is a call on each of the first two. -/
lemma exists_follows : ∃ a d, Follows 0 start.work.heap {} start steps a d ∧
    a.members = [made 0, made 1, made 2] ∧ a.log = [(0, above), (1, among)] := by
  have hrelation := Board.makes_relation.of_changes changes_heap there_relation
  have hselector := Board.makes_selector.of_changes changes_heap there_selector
  have hhands := Board.hands_selector.of_changes changes_heap there_relation
  have hmake : Does 0 heap {} (opened start) (.call "db" "boards" [] [] []) (.make (made 0)) :=
    .make (d := opened (start.withHeap (heap.push (.dict [])))) 2 ⟨.push _ _ _, rfl⟩ rfl
      (.inl ⟨rfl, rfl⟩) hrelation
  have habove : ∀ h : Heap, above.Given h [.int 5] := fun _ => ⟨.int 5, rfl, rfl⟩
  have hbelow : ∀ h : Heap, below.Given h [.int (-1)] := fun _ => rfl
  have hcount : Ask.count ∈ (made 1).builder.kind.asks := by decide
  have h : Follows 0 start.work.heap {} start steps _ _ :=
    .step hmake <|
    .step (.call (m := made 0) ⟨rfl, rfl⟩ fits_above rfl rfl rfl rfl (habove _)) <|
    .step (.derive (r := made 0) ⟨rfl, rfl⟩ rfl (by decide) hhands hselector) <|
    .step (.call (m := made 1) ⟨rfl, rfl⟩ fits_among rfl rfl rfl rfl
      (show among.Given _ [.list 17] from ⟨.list 17, rfl, rfl⟩)) <|
    .step (Account.does_create .deleter (v := recorder) (t := table) rfl rfl) <|
    .step (.call (m := made 1) ⟨rfl, rfl⟩ fits_below rfl rfl rfl rfl (hbelow _)) <|
    .step (.ask (m := made 1) ⟨rfl, rfl⟩ hcount (.recorder 7)) (.done _ _)
  exact ⟨_, _, h, rfl, rfl⟩

/-- **Each builder keeps its own.** -/
theorem builders_independent_scores : ∃ a d, Follows 0 start.work.heap {} start steps a d ∧
    (Action.each (answered (machine 5)) steps start).2 = d ∧
    d.work.heap[(made 0).builder.place .clauses]? = some (.list [.text "\"score\" > %s"]) ∧
    d.work.heap[(made 1).builder.place .clauses]? =
      some (.list [.text "\"score\" > %s", .text "\"score\" IN (%s, %s)"]) ∧
    d.work.heap[(made 1).builder.place .bindings]? = some (.list [.int 5, .int 7, .int 8]) ∧
    d.work.heap[(made 2).builder.place .clauses]? = some (.list []) := by
  obtain ⟨a, d, h, hmembers, hlog⟩ := exists_follows
  obtain ⟨hrun, hkept, -⟩ := Account.builders_independent h
  have hlists : ∀ (i : Nat) (m : Begun), [made 0, made 1, made 2][i]? = some m →
      ∀ p ∈ m.builder.kind.parts, d.work.heap[m.builder.place p]? = some (.list (m.origin.kept p ++
        (({ log := [(0, above), (1, among)] } : Account).calls i).flatMap
          (Builder.Call.items m.builder.table p))) := by
    intro i m hm
    rw [← hmembers] at hm
    unfold Account.calls
    rw [← hlog]
    exact (hkept i m hm).2
  exact ⟨a, d, h, hrun, hlists 0 _ rfl .clauses (by decide), hlists 1 _ rfl .clauses (by decide),
    hlists 1 _ rfl .bindings (by decide), hlists 2 _ rfl .clauses (by decide)⟩

end Scores

end PgSchema.Object
