import PgSchema.Codegen.Condition
import PgSchema.Proofs.Object.Narrowing

/-!
The conditions that modules define.

A condition is a function of one statement, which hands a fragment or a column on to a method of the
library, with the parameter of the function if it has one (`Defines`).  A call of it is a call of
that method (`callMethod_condition`).
-/

namespace PgSchema.Object

open Codegen (Statement)
open Query (Conditions)
open Session (callFunction callValue machine)
open Source (Argument Expr)

/-! ### Conditions as functions -/

/-- A call of a method of the receiver, as it stands in a function. -/
def ownCall (name : String) (arguments : List Expr) : Expr :=
  .call (.member (.name "self") name) (arguments.map .plain)

/-- What a function gives back whose body is the statement of a condition. -/
def given? (parameter : String) : Statement → Option Expr
  | .condition fragment none => some (ownCall "where" [.constant (.text fragment)])
  | .condition fragment (some _) =>
    some (ownCall "where" [.constant (.text fragment), .name parameter])
  | .membership negated column =>
    some (ownCall "in_" [.constant (.truth negated), .constant (.text column), .name parameter])
  | _ => none

/-- The parameters of the function besides the receiver. -/
def parametersOf (parameter : String) : Statement → List (String × Option Value)
  | .condition _ none => []
  | _ => [(parameter, none)]

/-- **A function of a module is that of a condition.** -/
structure Defines (d : Definition) (s : Statement) (parameter : String) : Prop where
  parameters : d.parameters = ("self", none) :: parametersOf parameter s
  rest : d.rest = none
  named : d.named = []
  more : d.more = none
  parameter_ne : parameter ≠ "self"
  body : ∃ e, given? parameter s = some e ∧ d.body = [.give (some e)]

/-- **A class has a condition as a method** of its instances. -/
def Class.Has (c : Class) (h : Heap) (name : String) (s : Statement) : Prop :=
  ∃ id d parameter, classMember? h c name = some (.defined (.function (.defined id))) ∧
    h.definition? id = some d ∧ Defines d s parameter

/-! ### Functions that run -/

section Functions

variable {m : Machine} {fr : Frame} {self v : Value} {parameter : String} {c : Course State}

/-- What is found under a name: in the function first, then in the module, then in the language. -/
lemma lookName_apply {name : String} (h : (fr.names.get? name).or ((c.work.globals.get? name).or
    (languageName? name)) = some v) : lookName fr name c = (.ok v, c) := by
  rw [lookName, Action.bind_apply_ok (work_apply c), h]
  rfl

/-- A name of the function comes before all others. -/
lemma lookName_own {name : String} (hname : fr.names.get? name = some v) (c : Course State) :
    lookName fr name c = (.ok v, c) :=
  lookName_apply (by rw [hname, Option.some_or])

lemma eval_name {name : String} (hname : lookName fr name c = (.ok v, c)) (m : Machine) :
    eval m fr (.name name) c = (.ok v, c) := by
  rw [eval, hname]

/-- An argument in its place. -/
lemma evalArguments_plain {e : Expr} (he : ∀ inner, e ≠ .spread inner)
    (hv : eval m fr e c = (.ok v, c)) (f : Value) (given : List Value) (rest : List Argument) :
    evalArguments m fr f given [] (.plain e :: rest) c =
      evalArguments m fr f (given ++ [v]) [] rest c := by
  rw [evalArguments, Action.bind_apply_ok hv]
  exact he

/-- A constant as an argument. -/
lemma evalArguments_constant (k : Source.Constant) (f : Value) (given : List Value)
    (rest : List Argument) (c : Course State) :
    evalArguments m fr f given [] (.plain (.constant k) :: rest) c =
      evalArguments m fr f (given ++ [ofConstant k]) [] rest c := by
  have hvalue : eval m fr (.constant k) c = (.ok (ofConstant k), c) := by
    rw [eval]
    rfl
  refine evalArguments_plain (fun inner h => ?_) hvalue f given rest
  cases h

/-- A name as an argument. -/
lemma evalArguments_name {name : String} (hname : lookName fr name c = (.ok v, c)) (f : Value)
    (given : List Value) (rest : List Argument) :
    evalArguments m fr f given [] (.plain (.name name) :: rest) c =
      evalArguments m fr f (given ++ [v]) [] rest c := by
  refine evalArguments_plain (fun inner h => ?_) (eval_name hname m) f given rest
  cases h

/-- A call of a method of the receiver, where the arguments are values. -/
lemma eval_ownCall (hself : fr.names.get? "self" = some self) (name : String)
    {arguments : List Expr} {values : List Value}
    (hvalues : ∀ f d, evalArguments m fr f [] [] (arguments.map .plain) d =
      (.ok (values, []), d)) (c : Course State) :
    eval m fr (ownCall name arguments) c = m.callMethod self name values c := by
  have hcallee : eval m fr (.member (.name "self") name) c = m.member self name c := by
    rw [eval, Action.bind_apply_ok (eval_name (lookName_own hself c) m)]
  unfold ownCall Machine.callMethod
  rw [eval]
  rcases hmember : m.member self name c with ⟨e | f, d⟩
  · rw [hmember] at hcallee
    rw [Action.bind_apply_error hcallee, Action.bind_apply_error hmember]
  · rw [hmember] at hcallee
    rw [Action.bind_apply_ok hcallee, Action.bind_apply_ok hmember,
      Action.bind_apply_ok (hvalues f d)]

/-- The method that a condition hands on to, with its arguments. -/
def handed (values : List Value) : Statement → String × List Value
  | .membership negated column => ("in_", .bool negated :: .text column :: values)
  | .condition fragment _ => ("where", .text fragment :: values)
  | _ => ("", [])

/-- **The function of a condition hands on** what it is called with. -/
lemma eval_given (hself : fr.names.get? "self" = some self) {s : Statement} {e : Expr}
    {values : List Value} (he : given? parameter s = some e)
    (hvalues : values = (parametersOf parameter s).map fun _ => v)
    (hparameter : (parameter, none) ∈ parametersOf parameter s →
      fr.names.get? parameter = some v) (c : Course State) :
    eval m fr e c = m.callMethod self (handed values s).1 (handed values s).2 c := by
  unfold given? at he
  split at he
  · obtain rfl := Option.some.inj he
    obtain rfl := hvalues
    refine eval_ownCall hself "where" (fun f d => ?_) c
    rw [List.map_cons, evalArguments_constant, List.map_nil, evalArguments]
    rfl
  · obtain rfl := Option.some.inj he
    obtain rfl := hvalues
    have hv := hparameter List.mem_cons_self
    refine eval_ownCall hself "where" (fun f d => ?_) c
    rw [List.map_cons, evalArguments_constant, List.map_cons,
      evalArguments_name (lookName_own hv d), List.map_nil, evalArguments]
    rfl
  · obtain rfl := Option.some.inj he
    obtain rfl := hvalues
    have hv := hparameter List.mem_cons_self
    refine eval_ownCall hself "in_" (fun f d => ?_) c
    rw [List.map_cons, evalArguments_constant, List.map_cons, evalArguments_constant,
      List.map_cons, evalArguments_name (lookName_own hv d), List.map_nil, evalArguments]
    rfl
  · cases he

/-- A function of one statement that gives something back. -/
lemma execAll_give (m : Machine) (fr : Frame) (e : Expr) (c : Course State) :
    (execAll m fr [.give (some e)] >>= fun done => pure (done.2.getD .null)) c =
      eval m fr e c := by
  rcases hrun : eval m fr e c with ⟨failure | v, d⟩
  · have hgive : exec m fr (.give (some e)) c = (.error failure, d) := by
      rw [exec, Action.bind_apply_error hrun]
    have hall : execAll m fr [.give (some e)] c = (.error failure, d) := by
      rw [execAll, Action.bind_apply_error hgive]
    rw [Action.bind_apply_error hall]
  · have hgive : exec m fr (.give (some e)) c = (.ok (fr, some v), d) := by
      rw [exec, Action.bind_apply_ok hrun]
      rfl
    have hall : execAll m fr [.give (some e)] c = (.ok (fr, some v), d) := by
      rw [execAll, Action.bind_apply_ok hgive]
      rfl
    rw [Action.bind_apply_ok hall]
    rfl

/-- The arguments of a condition, matched. -/
lemma accept_condition {d : Definition} {s : Statement} (hd : Defines d s parameter)
    {values : List Value} (hvalues : values = (parametersOf parameter s).map fun _ => v)
    (self : Value) : d.signature.accept (self :: values) [] = .ok ⟨self :: values, [], []⟩ := by
  have hne : (parameter == "self") = false := beq_false_of_ne hd.parameter_ne
  have hsignature : d.signature =
      { callee := d.callee, parameters := ("self", none) :: parametersOf parameter s
        placed := d.placed } := by
    rw [Definition.signature, hd.parameters, hd.rest, hd.named, hd.more]
    rfl
  rw [hsignature]
  obtain rfl := hvalues
  unfold parametersOf
  split
  · rfl
  · simp [Signature.accept, Signature.addNamed, Signature.missing, Signature.all, Entries.has,
      Entries.get?, List.lookup_cons, hne, bind, Except.bind]

/-- **A run of the function of a condition**.  A dictionary for arguments by name is made first,
though there are none. -/
lemma run_condition {d : Definition} {s : Statement} (hd : Defines d s parameter)
    {values : List Value} (hvalues : values = (parametersOf parameter s).map fun _ => v)
    (m : Machine) (self : Value) (c : Course State) : d.run m (self :: values) [] c =
      m.callMethod self (handed values s).1 (handed values s).2
        (c.withHeap (c.work.heap.push (.dict []))) := by
  obtain ⟨e, he, hbody⟩ := hd.body
  let names : Entries Value := ("self", self) :: (parametersOf parameter s).map fun p => (p.1, v)
  let fr : Frame := { place := .function, names, outer := d.callee ++ ".<locals>." }
  have hnames : ∀ more : Value, (d.signature.all.map (·.1)).zip (self :: values) ++
      (d.rest.toList.map (·, Value.tuple [])) ++ (d.more.toList.map (·, more)) = names := by
    intro more
    rw [Signature.all, Definition.signature, hd.parameters, hd.rest, hd.named, hd.more, hvalues]
    simp only [Option.toList_none, List.map_nil, List.append_nil, List.map_cons,
      List.zip_cons_cons, List.zip_map']
    rfl
  have hrun : d.run m (self :: values) [] c =
      (execAll m fr [.give (some e)] >>= fun done => pure (done.2.getD .null))
        (c.withHeap (c.work.heap.push (.dict []))) := by
    unfold Definition.run
    rw [accept_condition hd hvalues self]
    rw [Action.bind_apply_ok (show Action.check (.ok _) c = (.ok _, c) from rfl)]
    rw [Action.bind_apply_ok (newDict_apply _ c)]
    rw [hnames, hbody]
    rfl
  rw [hrun, execAll_give]
  refine eval_given rfl he hvalues (fun hmem => ?_) _
  have hother : parametersOf parameter s = [(parameter, none)] := by
    unfold parametersOf at hmem ⊢
    split
    · rename_i heq
      cases hmem
    · rfl
  change List.lookup parameter (("self", self) :: (parametersOf parameter s).map _) = _
  rw [hother, List.lookup_cons, beq_false_of_ne hd.parameter_ne]
  exact List.lookup_cons_self

end Functions

/-! ### Calls of conditions -/

/-- The fragment that a condition adds for so many values. -/
def fragmentOf (count : Nat) : Statement → String
  | .condition fragment _ => fragment
  | .membership negated column => Conditions.memberClause negated column count
  | _ => ""

namespace Builder

variable {b : Builder} {c : Course State} {kept : Part → List Value} {bounds : Edge → Value}
  {name : String} {s : Statement}

/-- **A call of a condition** is a call of the method that its function hands on to. -/
lemma Keeps.callMethod_condition (hk : b.Keeps c.work.heap kept bounds) (n : Nat)
    (hhas : b.cls.Has c.work.heap name s) (hname : b.own? bounds name = none)
    {values : List Value} {v : Value}
    (hvalues : ∀ parameter, values = (parametersOf parameter s).map fun _ => v) :
    (machine (n + 1)).callMethod b.value name values c =
      (machine n).callMethod b.value (handed values s).1 (handed values s).2
        (c.withHeap (c.work.heap.push (.dict []))) := by
  obtain ⟨id, d, parameter, hfound, hid, hd⟩ := hhas
  have hnone : (c.work.heap.attributes b.id).get? name = none := by rw [hk.get?, hname]
  have hrecorder : b.cls ≠ Recorder.cls := by
    refine hk.isKind.ne_recorder ?_
    cases b.kind <;> decide
  have hmember : (machine (n + 1)).member b.value name c =
      (.ok (.method b.value (.defined id)), c) := member_of_class hrecorder hfound hnone
  have hcall : (machine (n + 1)).callMethod b.value name values c =
      callFunction (machine n) (.defined id) (b.value :: values) [] c :=
    Action.bind_apply_ok hmember _
  have hfunction : callFunction (machine n) (.defined id) (b.value :: values) [] c =
      d.run (machine n) (b.value :: values) [] c := by
    unfold callFunction
    refine (Action.bind_apply_ok (heap_apply c) _).trans ?_
    dsimp only
    rw [hid]
  rw [hcall, hfunction]
  exact run_condition hd (hvalues parameter) (machine n) b.value c

/-- A new dictionary is in nobody's items. -/
lemma ownItems?_push_dict (h : Heap) (v : Value) :
    ownItems? (h.push (.dict [])) v = ownItems? h v := by
  -- where the dictionary is, there was nothing, and neither of them has items
  have hitems : ∀ id, Heap.items (h.push (.dict [])) id = h.items id := by
    intro id
    unfold Heap.items
    rw [Array.getElem?_push]
    by_cases hid : id = h.size
    · rw [if_pos hid, hid, Array.getElem?_eq_none (Nat.le_refl _)]
    · rw [if_neg hid]
  have hentries : ∀ id, Heap.entries (h.push (.dict [])) id = h.entries id := by
    intro id
    unfold Heap.entries
    rw [Array.getElem?_push]
    by_cases hid : id = h.size
    · rw [if_pos hid, hid, Array.getElem?_eq_none (Nat.le_refl _)]
    · rw [if_neg hid]
  cases v with
  | list id => exact congrArg some (hitems id)
  | dict id => exact congrArg (fun entries => some (entries.map (·.1))) (hentries id)
  | view sort id => exact congrArg (fun entries => some (entries.map (viewed sort))) (hentries id)
  | cls k => cases k <;> rfl
  | _ => rfl

/-- **What a condition is called with**, and the values that are bound then. -/
def Takes (h : Heap) : Statement → List Value → List Value → Prop
  | .condition _ none, arguments, values => arguments = [] ∧ values = []
  | .condition _ (some _), arguments, values => ∃ v, arguments = [v] ∧ values = [v]
  | .membership .., arguments, values => ∃ v, arguments = [v] ∧ ownItems? h v = some values
  | _, _, _ => False

/-- **A condition that a module defines.** -/
lemma turns_condition (hk : b.Keeps c.work.heap kept bounds) (n : Nat)
    (hhas : b.cls.Has c.work.heap name s) (hname : b.own? bounds name = none)
    {arguments values : List Value} (htakes : Takes c.work.heap s arguments values) :
    b.Turns c ((machine (n + 5)).callMethod b.value name arguments) (.ok b.value)
      (narrowed kept (.text (fragmentOf values.length s)) values) bounds := by
  have hk' : b.Keeps (c.withHeap (c.work.heap.push (.dict []))).work.heap kept bounds := hk.push _
  -- what is done behind the dictionary that is made first
  have hbehind : ∀ {x : Run Value} {kept' : Part → List Value},
      b.Turns (c.withHeap (c.work.heap.push (.dict []))) x (.ok b.value) kept' bounds →
      (machine (n + 5)).callMethod b.value name arguments c =
        x (c.withHeap (c.work.heap.push (.dict []))) →
      b.Turns c ((machine (n + 5)).callMethod b.value name arguments) (.ok b.value) kept'
        bounds := by
    rintro x kept' ⟨h, hrun, hchanges, hafter⟩ hcall
    exact ⟨h, hcall.trans hrun, (Changes.push _ _ _).trans hchanges, hafter⟩
  cases s with
  | condition fragment argument =>
    have hwhere := turns_where hk' (n + 1) (.text fragment) values
    refine hbehind hwhere ?_
    cases argument with
    | none =>
      obtain ⟨rfl, rfl⟩ := htakes
      exact hk.callMethod_condition (v := .null) (n + 4) hhas hname fun _ => rfl
    | some argument =>
      obtain ⟨v, rfl, rfl⟩ := htakes
      exact hk.callMethod_condition (v := v) (n + 4) hhas hname fun _ => rfl
  | membership negated column =>
    obtain ⟨v, rfl, hv⟩ := htakes
    have hv' : ownItems? (c.withHeap (c.work.heap.push (.dict []))).work.heap v = some values :=
      (ownItems?_push_dict _ v).trans hv
    refine hbehind (turns_in hk' n negated column hv') ?_
    exact hk.callMethod_condition (v := v) (n + 4) hhas hname fun _ => rfl
  | _ => exact htakes.elim

end Builder

end PgSchema.Object
