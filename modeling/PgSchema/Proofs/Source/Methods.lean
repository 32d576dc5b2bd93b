import PgSchema.Proofs.Source.Renaming
import PgSchema.Proofs.Source.Words
import PgSchema.Source.Statement

/-!
Methods that hand a text on.

A delegation is a method in a class that hands a text on to another method of its receiver, alone or
with what it is called with.  Its words are those of `Delegation.words`, and its tree is that of
`Delegation.tree`, whatever names and texts it is written with (`Delegation.treeOf_tokens`): the
rules read the method once with words that stand for all others.
-/

namespace PgSchema.Source

open Text.Normal (form)

/-! ### Trees that are equal -/

mutual

/-- Whether two trees are equal. -/
def Tree.decEq : (t u : Tree) → Decidable (t = u)
  | .token t, .token u => decidable_of_iff (t = u) ⟨congrArg _, Tree.token.inj⟩
  | .node r i ts, .node s j us =>
    match Tree.decEqAll ts us with
    | isTrue h => decidable_of_iff (r = s ∧ i = j) ⟨fun ⟨hr, hi⟩ => by rw [hr, hi, h], fun hnode =>
        ⟨(Tree.node.inj hnode).1, (Tree.node.inj hnode).2.1⟩⟩
    | isFalse h => isFalse fun hnode => h (Tree.node.inj hnode).2.2
  | .many ts, .many us =>
    match Tree.decEqAll ts us with
    | isTrue h => isTrue (congrArg _ h)
    | isFalse h => isFalse fun hmany => h (Tree.many.inj hmany)
  | .absent, .absent => isTrue rfl
  | .token _, .node .. | .token _, .many _ | .token _, .absent
  | .node .., .token _ | .node .., .many _ | .node .., .absent
  | .many _, .token _ | .many _, .node .. | .many _, .absent
  | .absent, .token _ | .absent, .node .. | .absent, .many _ => isFalse nofun

/-- Whether two rows of trees are equal. -/
def Tree.decEqAll : (ts us : List Tree) → Decidable (ts = us)
  | [], [] => isTrue rfl
  | t :: ts, u :: us =>
    match Tree.decEq t u, Tree.decEqAll ts us with
    | isTrue h, isTrue hs => isTrue (by rw [h, hs])
    | isFalse h, _ => isFalse fun hall => h (List.cons.inj hall).1
    | _, isFalse hs => isFalse fun hall => hs (List.cons.inj hall).2
  | [], _ :: _ | _ :: _, [] => isFalse nofun

end

instance : DecidableEq Tree := Tree.decEq

/-! ### Trees without flaws -/

section Calm

open Tree (node token many)

/-- The rules of parts that mean something wherever they stand. -/
def calmRules : List String :=
  ["param", "param_type", "param_no_default", "parameters", "primary", "trailer", "arguments",
   "args", "strings", ""]

mutual

/-- A tree of such parts. -/
def Tree.isCalm : Tree → Bool
  | token t => t.sort != .mark || t.text ∉ ["break", "continue", "yield", "return"]
  | node rule _ parts => rule ∈ calmRules && isCalmAll parts
  | many items => isCalmAll items
  | .absent => true

def Tree.isCalmAll : List Tree → Bool
  | [] => true
  | t :: ts => t.isCalm && isCalmAll ts

end

namespace Check

lemma firstOf_cons {check : Tree → Option Flaw} (t : Tree) (ts : List Tree) :
    firstOf check (t :: ts) = (check t).or (firstOf check ts) := by
  simp only [firstOf, List.findSome?_cons]
  cases check t <;> rfl

lemma firstOf_nil {check : Tree → Option Flaw} : firstOf check [] = none := rfl

lemma firstOf_eq_none_iff {check : Tree → Option Flaw} {ts : List Tree} :
    firstOf check ts = none ↔ ∀ t ∈ ts, check t = none := List.findSome?_eq_none_iff

lemma isCalmAll_iff {ts : List Tree} : Tree.isCalmAll ts = true ↔ ∀ t ∈ ts, t.isCalm = true := by
  induction ts with
  | nil => simp [Tree.isCalmAll]
  | cons t ts ih => simp [Tree.isCalmAll, ih]

/-- The rules of parts are told apart from all others. -/
lemma flaw?_node {rule : String} (hrule : rule ∈ calmRules) (p : Place) (n i : Nat)
    (parts : List Tree) : flaw? p (n + 1) (node rule i parts) = firstOf (flaw? p n) parts ∨
      rule = "args" ∧ flaw? p (n + 1) (node rule i parts) = (firstOf (flaw? p n) parts).or
        (keywordFlaw? p.line [] (argumentNames n (node rule i parts))) := by
  simp only [calmRules, List.mem_cons, List.not_mem_nil, or_false] at hrule
  rcases hrule with rfl | rfl | rfl | rfl | rfl | rfl | rfl | rfl | rfl | rfl
  all_goals first | exact .inl rfl | exact .inr ⟨rfl, rfl⟩

lemma argumentNames_of_isCalm {n : Nat} {t : Tree} (ht : t.isCalm = true) :
    argumentNames n t = [] := by
  induction n generalizing t with
  | zero => rfl
  | succ n ih =>
    have hall {ts : List Tree} (hts : Tree.isCalmAll ts = true) :
        ts.flatMap (argumentNames n) = [] :=
      List.flatMap_eq_nil_iff.2 fun t ht => ih (isCalmAll_iff.1 hts t ht)
    cases t with
    | node rule i parts =>
      obtain ⟨hrule, hparts⟩ := Bool.and_eq_true_iff.1 ht
      have hother : rule ≠ "kwarg_or_starred" ∧ rule ≠ "kwarg_or_double_starred" := by
        constructor <;> rintro rfl <;> exact absurd (of_decide_eq_true hrule) (by decide)
      change (if rule = "kwarg_or_starred" ∨ rule = "kwarg_or_double_starred" then _
        else if rule ∈ ["args", "kwargs", ""] then parts.flatMap (argumentNames n) else []) = []
      rw [if_neg (not_or.2 hother), hall hparts, ite_self]
    | many items => exact hall ht
    | token | absent => rfl

/-- **Parts that mean something wherever they stand** have no flaw. -/
lemma flaw?_of_isCalm {n : Nat} {p : Place} {t : Tree} (ht : t.isCalm = true) :
    flaw? p n t = none := by
  induction n generalizing p t with
  | zero => rfl
  | succ n ih =>
    have hall {ts : List Tree} (hts : Tree.isCalmAll ts = true) : firstOf (flaw? p n) ts = none :=
      firstOf_eq_none_iff.2 fun t ht => ih (isCalmAll_iff.1 hts t ht)
    cases t with
    | token w =>
      change (if w.sort = .mark ∧ ¬ p.isLoop = true then _ else none) = none
      split
      case isTrue hmark =>
        have hword : w.text ∉ ["break", "continue", "yield", "return"] := by
          simpa [Tree.isCalm, hmark.1] using ht
        simp only [List.mem_cons, List.not_mem_nil, or_false, not_or] at hword
        split <;> simp_all
      case isFalse => rfl
    | node rule i parts =>
      obtain ⟨hrule, hparts⟩ := Bool.and_eq_true_iff.1 ht
      rcases flaw?_node (of_decide_eq_true hrule) p n i parts with h | ⟨-, h⟩
      · rw [h, hall hparts]
      · rw [h, hall hparts, argumentNames_of_isCalm ht]
        rfl
    | many items => exact hall ht
    | absent => rfl

/-- They have no parameters either. -/
lemma parameterFlaw?_of_isCalm {n : Nat} {owner : String} {t : Tree} (ht : t.isCalm = true) :
    parameterFlaw? owner n t = none := by
  induction n generalizing t with
  | zero => rfl
  | succ n ih =>
    have hall {ts : List Tree} (hts : Tree.isCalmAll ts = true) :
        firstOf (parameterFlaw? owner n) ts = none :=
      firstOf_eq_none_iff.2 fun t ht => ih (isCalmAll_iff.1 hts t ht)
    cases t with
    | node rule i parts =>
      obtain ⟨hrule, hparts⟩ := Bool.and_eq_true_iff.1 ht
      have hrule := of_decide_eq_true hrule
      simp only [calmRules, List.mem_cons, List.not_mem_nil, or_false] at hrule
      rcases hrule with rfl | rfl | rfl | rfl | rfl | rfl | rfl | rfl | rfl | rfl <;>
        exact hall hparts
    | many items => exact hall ht
    | token | absent => rfl

end Check

end Calm

/-! ### Names as they count -/

lemma IsIdentifier.ne_comma {s : String} (h : IsIdentifier s) : s ≠ "," := by
  rintro rfl
  obtain ⟨c, cs, hc, hstart, -⟩ := h
  obtain ⟨rfl, -⟩ := List.cons.inj (show ',' :: [] = c :: cs from hc)
  exact absurd hstart (by decide)

/-- The receiver keeps its name, and another name is told from it by its normal form. -/
lemma countedName_eq_self_iff {owner name : String} :
    countedName owner name = "self" ↔ form name = "self" := by
  unfold countedName privateName
  dsimp only
  split
  case isTrue h =>
    -- a private name begins with a low line, and its form with two of them
    refine iff_of_false (fun heq => ?_) (fun heq => ?_)
    · have hchars := congrArg String.toList heq
      simp at hchars
    · rw [heq] at h
      exact absurd h.1 (by decide)
  case isFalse => exact Iff.rfl

/-- A name that is its own form, and begins with no low line, is the same everywhere. -/
lemma countedName_of_plain {name : String} (hform : form name = name)
    (hline : "__".toList.isPrefixOf name.toList = false) (owner : String) :
    countedName owner name = name := by
  rw [countedName, hform, privateName]
  exact if_neg fun h => Bool.false_ne_true (hline.symm.trans h.1)

/-- **A name that a method can give to what it takes**: not that of its receiver, and not the one
that nothing can be called by.  Names are compared in their normal forms. -/
def CanName (name : String) : Prop := form name ≠ "self" ∧ form name ≠ Check.reserved

instance : DecidablePred CanName := fun _ => inferInstanceAs (Decidable (_ ∧ _))

/-! ### Delegations -/

/-- What a method hands on: a text alone, or with a value that it takes, or with a truth value and a
collection that it takes.  The type of what it takes can be made by a form. -/
inductive Handed where
  | text
  | value (name type : String) (form : Option String)
  | chosen (truth : Bool) (name type form : String)
  deriving DecidableEq

namespace Handed

/-- What the method takes besides its receiver: the name, the type, and the form of the type. -/
def taken? : Handed → Option (String × String × Option String)
  | text => none
  | value name type form => some (name, type, form)
  | chosen _ name type form => some (name, type, some form)

/-- The truth value that is handed on before the text. -/
def truth? : Handed → Option Bool
  | chosen truth .. => some truth
  | _ => none

/-- The same in words that stand for all others. -/
def plain : Handed → Handed
  | text => text
  | value _ _ form => value "a" "T" (form.map fun _ => "F")
  | chosen truth .. => chosen truth "a" "T" "F"

/-- What can be handed on, in words that stand for all others. -/
def shapes : List Handed :=
  [text, value "a" "T" none, value "a" "T" (some "F"), chosen false "a" "T" "F",
   chosen true "a" "T" "F"]

lemma plain_mem (h : Handed) : h.plain ∈ shapes := by
  rcases h with _ | ⟨name, type, _ | form⟩ | ⟨_ | _, name, type, form⟩ <;> simp [plain, shapes]

end Handed

/-- A method of a class that hands a text on to another method of its receiver. -/
structure Delegation where
  owner : String
  base : String
  name : String
  handed : Handed
  /-- What the method says that it gives back, as a literal. -/
  returns : String
  callee : String
  /-- The text that is handed on, as a literal. -/
  literal : String

namespace Delegation

/-- The keyword of a truth value. -/
def truthWord (b : Bool) : String := if b then "True" else "False"

variable (m : Delegation)

/-- The words of the method, line by line. -/
def words : List (List Word) :=
  [[.keyword "class", .blank, .name m.owner, .opening '(', .name m.base, .closing ')', .mark ":"],
   [.keyword "def", .blank, .name m.name, .opening '(', .name "self"] ++
    (match m.handed.taken? with
      | none => []
      | some (name, type, none) => [.mark ",", .blank, .name name, .mark ":", .blank, .name type]
      | some (name, type, some form) => [.mark ",", .blank, .name name, .mark ":", .blank,
        .name form, .opening '[', .name type, .closing ']']) ++
    [.closing ')', .blank, .mark "->", .blank, .text m.returns, .mark ":"],
   [.keyword "return", .blank, .name "self", .mark ".", .name m.callee, .opening '('] ++
    (match m.handed.truth? with
      | none => []
      | some b => [.keyword (truthWord b), .mark ",", .blank]) ++
    [.text m.literal] ++
    (match m.handed.taken? with
      | none => []
      | some (name, _) => [.mark ",", .blank, .name name]) ++
    [.closing ')']]

/-- The text of the method. -/
def text : String := String.ofList (Nested.chars 0 m.words)

/-- The tokens of the method. -/
def tokens : List Token :=
  Nested.tokens 0 m.words ++ List.replicate 2 { sort := .dedent, line := 3 } ++
    [{ sort := .finish, line := 3 }]

/-! #### The tree -/

section Tree

open Tree (node token many)

/-- The parameters of the method. -/
def parametersTree : Tree :=
  let self : Tree := node "param" 0 [token ⟨.name, "self", 2, 1⟩, .absent]
  let all : List Tree := match m.handed.taken? with
    | none => [self]
    | some (name, type, form) =>
      let typeTree : Tree := match form with
        | none => token ⟨.name, type, 2, 1⟩
        | some form => node "primary" 0 [token ⟨.name, form, 2, 1⟩,
          many [node "trailer" 3 [token ⟨.mark, "[", 2, 2⟩, token ⟨.name, type, 2, 2⟩,
            token ⟨.mark, "]", 2, 1⟩]]]
      [node "param_no_default" 0 [self, token ⟨.mark, ",", 2, 1⟩],
       node "param" 0 [token ⟨.name, name, 2, 1⟩,
        node "param_type" 0 [token ⟨.mark, ":", 2, 1⟩, typeTree]]]
  node "parameters" 2 [many all, many [], .absent]

/-- Arguments in the brackets of a call or of a class. -/
def argumentsTree (items : List Tree) : Tree :=
  node "arguments" 0 [node "args" 0 [many items, .absent], .absent]

/-- What the method hands on. -/
def handedTrees : List Tree :=
  (match m.handed.truth? with
    | none => []
    | some b => [token ⟨.mark, truthWord b, 3, 1⟩]) ++
  [node "strings" 0 [many [token ⟨.text, m.literal, 3, 1⟩]]] ++
  (match m.handed.taken? with
    | none => []
    | some (name, _) => [token ⟨.name, name, 3, 1⟩])

/-- What the method gives back. -/
def givenTree : Tree :=
  node "primary" 0 [token ⟨.name, "self", 3, 0⟩,
    many [node "trailer" 0 [token ⟨.mark, ".", 3, 0⟩, token ⟨.name, m.callee, 3, 0⟩],
      node "trailer" 2 [token ⟨.mark, "(", 3, 1⟩, argumentsTree m.handedTrees,
        token ⟨.mark, ")", 3, 0⟩]]]

/-- A statement as a row of statements. -/
def statementsTree (statement : Tree) : Tree := node "statements" 0 [many [statement]]

/-- A block of one statement, behind the line that it belongs to. -/
def blockTree (line : Nat) (statement : Tree) : Tree :=
  node "block" 0 [token ⟨.newline, "", line, 0⟩, token ⟨.indent, "", line + 1, 0⟩,
    statementsTree statement, token ⟨.dedent, "", 3, 0⟩]

/-- A text of one statement. -/
def fileTree (statement : Tree) : Tree :=
  node "file" 0 [statementsTree statement, token ⟨.finish, "", 3, 0⟩]

/-- The body of the method as a tree. -/
def bodyTree : Tree :=
  blockTree 2 (node "simple_stmts" 0 [node "return_stmt" 0 [token ⟨.mark, "return", 3, 0⟩,
    m.givenTree], token ⟨.newline, "", 3, 0⟩])

/-- What the method says that it gives back. -/
def returnsTree : Tree :=
  node "" 0 [token ⟨.mark, "->", 2, 0⟩, node "strings" 0 [many [token ⟨.text, m.returns, 2, 0⟩]]]

/-- The method as a tree. -/
def functionTree : Tree :=
  node "function_def_raw" 1 [.absent, token ⟨.mark, "def", 2, 0⟩, token ⟨.name, m.name, 2, 0⟩,
    token ⟨.mark, "(", 2, 1⟩, m.parametersTree, token ⟨.mark, ")", 2, 0⟩, m.returnsTree,
    token ⟨.mark, ":", 2, 0⟩, m.bodyTree]

/-- The class that the class of the method is derived from. -/
def basesTree : Tree :=
  node "" 0 [token ⟨.mark, "(", 1, 1⟩, argumentsTree [token ⟨.name, m.base, 1, 1⟩],
    token ⟨.mark, ")", 1, 0⟩]

/-- The class of the method as a tree. -/
def classTree : Tree :=
  node "class_def_raw" 1 [token ⟨.mark, "class", 1, 0⟩, token ⟨.name, m.owner, 1, 0⟩,
    m.basesTree, token ⟨.mark, ":", 1, 0⟩, blockTree 1 m.functionTree]

/-- The text of the method as a tree. -/
def tree : Tree := fileTree m.classTree

end Tree

/-! #### The method in other words -/

/-- A method in words that stand for all others. -/
def ofShape (h : Handed) : Delegation :=
  { owner := "A", base := "B", name := "m", handed := h, returns := "\"R\"", callee := "c"
    literal := "'x'" }

/-- The word of the method that a word stands for. -/
def word (t : Token) : Token :=
  let names : List (String × String) := [("A", m.owner), ("B", m.base), ("m", m.name),
    ("c", m.callee)] ++ m.handed.taken?.toList.flatMap fun (name, type, form) =>
      [("a", name), ("T", type), ("F", form.getD "")]
  let literals : List (String × String) := [("\"R\"", m.returns), ("'x'", m.literal)]
  match t.sort with
  | .name => { t with text := (names.lookup t.text).getD t.text }
  | .text => { t with text := (literals.lookup t.text).getD t.text }
  | _ => t

lemma tokens_ofShape : (ofShape m.handed.plain).tokens.map m.word = m.tokens := by
  obtain ⟨owner, base, name, handed, returns, callee, literal⟩ := m
  rcases handed with _ | ⟨p, type, _ | form⟩ | ⟨_ | _, p, type, form⟩ <;> rfl

lemma tree_ofShape : (ofShape m.handed.plain).tree.renamed m.word = m.tree := by
  obtain ⟨owner, base, name, handed, returns, callee, literal⟩ := m
  rcases handed with _ | ⟨p, type, _ | form⟩ | ⟨_ | _, p, type, form⟩ <;> rfl

/-- A shape is read, with nothing to complain of. -/
def IsRead (h : Handed) : Prop :=
  treeOf grammar.strict ⟨(ofShape h).tokens.toArray, {}⟩ = .ok (ofShape h).tree

instance (h : Handed) : Decidable (IsRead h) := by
  unfold IsRead
  infer_instance

/-- A method that hands on a text alone is read.  Each shape is evaluated by itself, because what is
kept while one is read takes much room. -/
lemma isRead_text : IsRead .text := by decide +kernel

lemma isRead_value {form : Option String} (hform : form = none ∨ form = some "F") :
    IsRead (.value "a" "T" form) := by
  rcases hform with rfl | rfl <;> decide +kernel

lemma isRead_chosen (truth : Bool) : IsRead (.chosen truth "a" "T" "F") := by
  cases truth <;> decide +kernel

/-- Every shape is read, with nothing to complain of. -/
lemma isRead_plain (h : Handed) : IsRead h.plain := by
  cases h with
  | text => exact isRead_text
  | value name type form =>
    cases form with
    | none => exact isRead_value (.inl rfl)
    | some form => exact isRead_value (.inr rfl)
  | chosen truth name type form => exact isRead_chosen truth

/-- The literals of the method stand for texts: what is given back, and what is handed on. -/
structure HasTexts (given text : String) : Prop where
  returns : Literal.piece m.returns = .ok (.text given)
  literal : Literal.piece m.literal = .ok (.text text)

variable {m} {given text : String}

lemma isRenaming (htexts : m.HasTexts given text) :
    Token.IsRenaming m.word (ofShape m.handed.plain).tokens.toArray where
  others := fun t hname htext => by
    unfold word
    split
    · exact (hname ‹_›).elim
    · exact (htext ‹_›).elim
    · rfl
  words := fun t => by
    unfold word
    split
    · exact ⟨_, rfl⟩
    · exact ⟨_, rfl⟩
    · exact ⟨t.text, rfl⟩
  marks := by
    have hmarks : ∀ h ∈ Handed.shapes, ∀ t ∈ (ofShape h).tokens, t.sort = .mark → t.text ≠ "" := by
      decide
    intro t ht
    exact hmarks _ m.handed.plain_mem t (List.mem_toArray.1 ht)
  literals := fun t htext => by
    unfold word
    rw [htext]
    dsimp only
    by_cases hfirst : t.text = "\"R\""
    · exact .inr ⟨"R", given, by rw [hfirst]; rfl, by rw [hfirst]; exact htexts.returns⟩
    by_cases hsecond : t.text = "'x'"
    · exact .inr ⟨"x", text, by rw [hsecond]; rfl, by rw [hsecond]; exact htexts.literal⟩
    left
    simp only [List.lookup_cons, beq_false_of_ne hfirst, beq_false_of_ne hsecond, List.lookup_nil,
      Option.getD_none]

/-- **A delegation is read as its tree**, whatever words it is written with. -/
theorem treeOf_tokens (htexts : m.HasTexts given text) :
    treeOf grammar ⟨m.tokens.toArray, {}⟩ = .ok m.tree := by
  have h := treeOf_renamed (isRenaming htexts) (isRead_plain m.handed)
  rw [Tokens.renamed, List.map_toArray, tokens_ofShape, tree_ofShape] at h
  exact h

end Delegation

/-! ### Flaws of a delegation -/

namespace Delegation

open Check
open Tree (node token many)

variable {m : Delegation}

/-- The name of what the method takes besides its receiver. -/
def takenName? (m : Delegation) : Option String := m.handed.taken?.map (·.1)

/-- The names of the parameters, as trees. -/
def parameterTrees (m : Delegation) : List Tree :=
  ("self" :: m.takenName?.toList).map fun name => token ⟨.name, name, 2, 1⟩

lemma parameterNames_parametersTree :
    [m.parametersTree].flatMap (parameterNames Tree.mostDepth) = m.parameterTrees := by
  have hnames (n : Nat) : parameterNames (n + 4) m.parametersTree = m.parameterTrees := by
    obtain ⟨owner, base, name, handed, returns, callee, literal⟩ := m
    rcases handed with _ | ⟨p, type, _ | form⟩ | ⟨truth, p, type, form⟩ <;> rfl
  obtain ⟨n, hn⟩ : ∃ n, Tree.mostDepth = n + 4 := ⟨9996, rfl⟩
  rw [List.flatMap_singleton, hn, hnames]

lemma isCalm_parametersTree : m.parametersTree.isCalm = true := by
  obtain ⟨owner, base, name, handed, returns, callee, literal⟩ := m
  rcases handed with _ | ⟨p, type, _ | form⟩ | ⟨truth, p, type, form⟩ <;> rfl

lemma isCalm_returnsTree : m.returnsTree.isCalm = true := rfl

lemma isCalm_basesTree : m.basesTree.isCalm = true := rfl

lemma isCalm_givenTree : m.givenTree.isCalm = true := by
  obtain ⟨owner, base, name, handed, returns, callee, literal⟩ := m
  rcases handed with _ | ⟨p, type, _ | form⟩ | ⟨_ | _, p, type, form⟩ <;> rfl

section Parameters

variable (owner : String) (n : Nat) {t : Tree}

lemma parameterFlaw?_token (w : Token) : parameterFlaw? owner n (token w) = none := by
  cases n <;> rfl

lemma parameterFlaw?_absent : parameterFlaw? owner n .absent = none := by
  cases n <;> rfl

lemma parameterFlaw?_statementsTree :
    parameterFlaw? owner (n + 2) (statementsTree t) = parameterFlaw? owner n t := by
  change firstOf (parameterFlaw? owner (n + 1)) [many [t]] = _
  rw [firstOf_cons, firstOf_nil, Option.or_none]
  change firstOf (parameterFlaw? owner n) [t] = _
  rw [firstOf_cons, firstOf_nil, Option.or_none]

lemma parameterFlaw?_blockTree (line : Nat) :
    parameterFlaw? owner (n + 3) (blockTree line t) = parameterFlaw? owner n t := by
  change firstOf (parameterFlaw? owner (n + 2)) _ = _
  simp only [firstOf_cons, firstOf_nil, parameterFlaw?_token, parameterFlaw?_statementsTree,
    Option.none_or, Option.or_none]

lemma parameterFlaw?_bodyTree : parameterFlaw? owner (n + 5) m.bodyTree = none := by
  have hgiven : parameterFlaw? owner n m.givenTree = none :=
    parameterFlaw?_of_isCalm isCalm_givenTree
  have hreturn : parameterFlaw? owner (n + 1)
      (node "return_stmt" 0 [token ⟨.mark, "return", 3, 0⟩, m.givenTree]) = none := by
    change firstOf (parameterFlaw? owner n) _ = none
    simp only [firstOf_cons, firstOf_nil, parameterFlaw?_token, hgiven, Option.none_or]
  refine (parameterFlaw?_blockTree owner (n + 2) 2).trans ?_
  change firstOf (parameterFlaw? owner (n + 1)) _ = none
  simp only [firstOf_cons, firstOf_nil, parameterFlaw?_token, hreturn, Option.none_or]

lemma parameterFlaw?_functionTree :
    parameterFlaw? owner (n + 6) m.functionTree = twice? owner [] m.parameterTrees := by
  change (twice? owner [] ([m.parametersTree].flatMap (parameterNames Tree.mostDepth))).or
    (firstOf (parameterFlaw? owner (n + 5)) _) = _
  simp only [parameterNames_parametersTree, firstOf_cons, firstOf_nil, parameterFlaw?_token,
    parameterFlaw?_absent, parameterFlaw?_of_isCalm isCalm_parametersTree,
    parameterFlaw?_of_isCalm isCalm_returnsTree, parameterFlaw?_bodyTree, Option.or_none]

/-- Only parameters of one name are told of before everything else. -/
lemma parameterFlaw?_tree :
    parameterFlaw? "" Tree.mostDepth m.tree = twice? m.owner [] m.parameterTrees := by
  obtain ⟨n, hn⟩ : ∃ n, Tree.mostDepth = n + 13 := ⟨9987, rfl⟩
  have hclass : parameterFlaw? "" (n + 10) m.classTree = twice? m.owner [] m.parameterTrees := by
    change firstOf (parameterFlaw? m.owner (n + 9)) _ = _
    simp only [firstOf_cons, firstOf_nil, parameterFlaw?_token,
      parameterFlaw?_of_isCalm isCalm_basesTree, parameterFlaw?_blockTree,
      parameterFlaw?_functionTree, Option.none_or, Option.or_none]
  rw [hn]
  change firstOf (parameterFlaw? "" (n + 12)) _ = _
  simp only [firstOf_cons, firstOf_nil, parameterFlaw?_statementsTree, parameterFlaw?_token, hclass,
    Option.or_none]

end Parameters

/-! #### Statements and expressions -/

section Flaws

variable (p : Check.Place) (n : Nat) {t : Tree}

lemma flaw?_statementsTree :
    flaw? p (n + 1) (statementsTree t) = flaw? { p with line := t.line } n t := by
  change firstOf (fun s => flaw? { p with line := s.line } n s) [t] = _
  rw [firstOf_cons, firstOf_nil, Option.or_none]

/-- Only marks have flaws of their own. -/
lemma flaw?_token {w : Token} (hw : w.sort ≠ .mark) : flaw? p n (token w) = none :=
  flaw?_of_isCalm (by simp [Tree.isCalm, hw])

lemma flaw?_blockTree (line : Nat) :
    flaw? p (n + 2) (blockTree line t) = flaw? { p with line := t.line } n t := by
  change firstOf (flaw? p (n + 1)) _ = _
  simp (disch := simp) only [firstOf_cons, firstOf_nil, flaw?_token, flaw?_statementsTree,
    Option.none_or, Option.or_none]

lemma flaw?_bodyTree (hp : p.isFunction = true) : flaw? p (n + 4) m.bodyTree = none := by
  have hword (p : Check.Place) (hp : p.isFunction = true) :
      flaw? p n (token ⟨.mark, "return", 3, 0⟩) = none := by
    cases n with
    | zero => rfl
    | succ n => simp [flaw?, hp]
  have hreturn (p : Check.Place) (hp : p.isFunction = true) : flaw? p (n + 1)
      (node "return_stmt" 0 [token ⟨.mark, "return", 3, 0⟩, m.givenTree]) = none := by
    change (if p.isFunction then firstOf (flaw? p n) _ else _) = none
    rw [if_pos hp]
    simp only [firstOf_cons, firstOf_nil, hword _ hp, flaw?_of_isCalm isCalm_givenTree,
      Option.none_or]
  refine (flaw?_blockTree p (n + 2) 2).trans ?_
  change firstOf (fun s => flaw? _ (n + 1) s) [node "return_stmt" 0 _, token _] = none
  simp (disch := first | exact hp | simp) only [firstOf_cons, firstOf_nil, flaw?_token, hreturn,
    Option.none_or]

lemma reservedFlaw_eq_none_iff {b : Bool} {line : Nat} :
    (if b = true then reservedFlaw line else none) = none ↔ b = false := by
  cases b <;> simp [reservedFlaw]

lemma flaw?_functionTree : flaw? p (n + 5) m.functionTree = none ↔
    (∀ name ∈ m.takenName?, isReserved name = false) ∧ isReserved m.name = false := by
  have hself : isReserved "self" = false := by decide
  let front : List Tree := [.absent, token ⟨.mark, "def", 2, 0⟩, token ⟨.name, m.name, 2, 0⟩,
    token ⟨.mark, "(", 2, 1⟩, m.parametersTree, token ⟨.mark, ")", 2, 0⟩, m.returnsTree,
    token ⟨.mark, ":", 2, 0⟩]
  have hfront (p : Check.Place) : firstOf (flaw? p (n + 4)) front = none := by
    refine firstOf_eq_none_iff.2 fun t ht => flaw?_of_isCalm (isCalmAll_iff.1 ?_ t ht)
    simp only [front, Tree.isCalmAll, isCalm_parametersTree, isCalm_returnsTree]
    rfl
  change (if ([m.parametersTree].flatMap (parameterNames Tree.mostDepth)).any
    (isReserved ·.word) = true then reservedFlaw 2 else none).or
      ((firstOf (flaw? _ (n + 4)) front).or ((flaw? _ (n + 4) m.bodyTree).or
        (if isReserved m.name = true then reservedFlaw 2 else none))) = none ↔ _
  rw [parameterNames_parametersTree, hfront, flaw?_bodyTree _ _ rfl, Option.none_or,
    Option.none_or, Option.or_eq_none_iff, reservedFlaw_eq_none_iff, reservedFlaw_eq_none_iff]
  refine and_congr_left fun _ => ?_
  simp [parameterTrees, hself, Tree.word]

lemma flaw?_tree : flaw? {} Tree.mostDepth m.tree = none ↔
    (∀ name ∈ m.takenName?, isReserved name = false) ∧ isReserved m.name = false ∧
      isReserved m.owner = false := by
  obtain ⟨n, hn⟩ : ∃ n, Tree.mostDepth = n + 10 := ⟨9990, rfl⟩
  have hclass (p : Check.Place) : flaw? p (n + 8) m.classTree = none ↔
      (∀ name ∈ m.takenName?, isReserved name = false) ∧ isReserved m.name = false ∧
        isReserved m.owner = false := by
    let front : List Tree := [token ⟨.mark, "class", 1, 0⟩, token ⟨.name, m.owner, 1, 0⟩,
      m.basesTree, token ⟨.mark, ":", 1, 0⟩]
    have hfront (p : Check.Place) : firstOf (flaw? p (n + 7)) front = none := by
      refine firstOf_eq_none_iff.2 fun t ht => flaw?_of_isCalm (isCalmAll_iff.1 ?_ t ht)
      simp only [front, Tree.isCalmAll, isCalm_basesTree]
      rfl
    change (flaw? _ (n + 7) (blockTree 1 m.functionTree)).or
      ((firstOf (flaw? _ (n + 7)) front).or
        (if isReserved m.owner = true then reservedFlaw 1 else none)) = none ↔ _
    rw [hfront, Option.none_or, flaw?_blockTree, Option.or_eq_none_iff, flaw?_functionTree,
      reservedFlaw_eq_none_iff, and_assoc]
  rw [hn]
  change firstOf (flaw? {} (n + 9)) _ = none ↔ _
  simp (disch := simp) only [firstOf_cons, firstOf_nil, flaw?_statementsTree, flaw?_token, hclass,
    Option.or_none]

end Flaws

lemma twice?_parameterTrees : twice? m.owner [] m.parameterTrees = none ↔
    ∀ name ∈ m.takenName?, form name ≠ "self" := by
  have hself : countedName m.owner "self" = "self" := countedName_eq_self_iff.2 (by decide)
  unfold parameterTrees
  rcases m.takenName? with _ | name
  · simp [twice?]
  · simp [twice?, Check.name, Tree.word, hself, countedName_eq_self_iff]

/-- **A method can be defined** if what it takes has another name than its receiver, and no name is
reserved. -/
lemma checkFlaw?_tree : checkFlaw? m.tree = none ↔
    (∀ name ∈ m.takenName?, form name ≠ "self") ∧
      (∀ name ∈ m.takenName?, isReserved name = false) ∧ isReserved m.name = false ∧
      isReserved m.owner = false := by
  rw [checkFlaw?, Option.or_eq_none_iff, parameterFlaw?_tree, twice?_parameterTrees, flaw?_tree]

end Delegation

/-! ### Delegations as statements -/

namespace Delegation

open Tree (node token many)

variable (m : Delegation)

/-- The class that the method belongs to, by its name as it counts. -/
def title : String := form m.owner

/-- A name in the method as it counts. -/
def counted (name : String) : String := countedName m.title name

/-- The parameters of the method. -/
def parameters : Parameters where
  plain := { name := m.counted "self" } :: match m.handed.taken? with
    | none => []
    | some (name, type, none) => [{ name := m.counted name, type := some (.name (m.counted type)) }]
    | some (name, type, some form) => [
      { name := m.counted name
        type := some (.subscript (.name (m.counted form)) (.name (m.counted type))) }]

/-- The parameters are the receiver and what is taken, and none of them has a default. -/
lemma parameters_plain : m.parameters.plain.map (fun p => (p.name, p.default.isNone)) =
    ("self" :: m.takenName?.toList).map fun name => (m.counted name, true) := by
  obtain ⟨owner, base, name, handed, returns, callee, literal⟩ := m
  rcases handed with _ | ⟨p, type, _ | form⟩ | ⟨truth, p, type, form⟩ <;> rfl

/-- The call that the method hands a text on by. -/
def call (text : String) : Expr :=
  .call (.member (.name (m.counted "self")) (m.counted m.callee))
    ((m.handed.truth?.toList.map fun b => .plain (.constant (.truth b))) ++
      [.plain (.constant (.text text))] ++
      m.takenName?.toList.map fun name => .plain (.name (m.counted name)))

/-- The method as a statement. -/
def function (given text : String) : Stmt :=
  .function [] (form m.name) (m.counted m.name) m.parameters (some (.constant (.text given)))
    [.give (some (m.call text))]

/-- The class of the method as a statement. -/
def cls (given text : String) : Stmt :=
  .cls [] m.title (privateName "" m.title) [.plain (.name (countedName "" m.base))]
    [m.function given text]

variable {m} {given text : String}

lemma statements_statementsTree (owner : String) (n : Nat) (t : Tree) :
    Tree.statements owner (n + 1) (statementsTree t) = Tree.statements owner n t := by
  rw [statementsTree, Tree.statements, Tree.items, List.flatMap_singleton]

lemma statements_blockTree (owner : String) (n line : Nat) (t : Tree) :
    Tree.statements owner (n + 2) (blockTree line t) = Tree.statements owner n t := by
  rw [blockTree, Tree.statements, statements_statementsTree]

lemma ofLiterals_of_piece {s x : String} (h : Literal.piece s = .ok (.text x)) (line depth : Nat) :
    Tree.ofLiterals [.token ⟨.text, s, line, depth⟩] = .constant (.text x) := by
  have hpieces : Literal.pieces none [⟨.text, s, line, depth⟩] = .ok (.text x) := by
    simp only [Literal.pieces, h, Option.getD_some]
  simp only [Tree.ofLiterals, List.filterMap_cons, List.filterMap_nil, hpieces]

lemma parameters_parametersTree : Tree.parameters m.title m.parametersTree = m.parameters := by
  obtain ⟨owner, base, name, handed, returns, callee, literal⟩ := m
  rcases handed with _ | ⟨p, type, _ | form⟩ | ⟨truth, p, type, form⟩ <;> rfl

/-- An argument that is no comma. -/
lemma argumentTrees_token {w : Token} (hw : w.text ≠ ",") (n : Nat) :
    Tree.argumentTrees (n + 1) (token w) = [token w] := if_neg hw

lemma argumentList_argumentsTree (inner : Tree → Expr) {items : List Tree}
    (hitems : ∀ n, items.flatMap (Tree.argumentTrees (n + 1)) = items) :
    Tree.argumentList inner (argumentsTree items) = items.map (Tree.argument inner) := by
  obtain ⟨n, hn⟩ : ∃ n, Tree.mostDepth = n + 4 := ⟨9996, rfl⟩
  have hrow : Tree.argumentTrees (n + 3) (node "args" 0 [many items, .absent]) = items := by
    change Tree.argumentTrees (n + 2) (many items) ++ [] = _
    rw [List.append_nil]
    exact hitems n
  have hall : Tree.argumentTrees (n + 4) (argumentsTree items) = items := by
    change Tree.argumentTrees (n + 3) (node "args" 0 [many items, .absent]) ++ [] = _
    rw [hrow, List.append_nil]
  rw [Tree.argumentList, hn, hall]

lemma toExpr_givenTree (htexts : m.HasTexts given text)
    (hcomma : ∀ name ∈ m.takenName?, name ≠ ",") :
    Tree.toExpr m.title m.givenTree = m.call text := by
  obtain ⟨n, hn⟩ : ∃ n, Tree.mostDepth = n + 2 := ⟨9998, rfl⟩
  have hitems : ∀ n, m.handedTrees.flatMap (Tree.argumentTrees (n + 1)) = m.handedTrees := by
    intro n
    have htaken : ∀ name type form, m.handed.taken? = some (name, type, form) → name ≠ "," :=
      fun name type form h => hcomma name (by rw [takenName?, h]; rfl)
    unfold handedTrees
    simp only [List.flatMap_append]
    congr 1
    · congr 1
      cases m.handed.truth? with
      | none => rfl
      | some b => cases b <;> rfl
    · rcases htaken? : m.handed.taken? with _ | ⟨name, type, form⟩
      · rfl
      · exact (List.flatMap_singleton _ _).trans (argumentTrees_token (htaken _ _ _ htaken?) n)
  have hliteral : Tree.expression m.title (n + 1)
      (node "strings" 0 [many [token ⟨.text, m.literal, 3, 1⟩]]) = .constant (.text text) :=
    ofLiterals_of_piece htexts.literal 3 1
  rw [Tree.toExpr, hn]
  change Expr.call _
    (Tree.argumentList (Tree.expression m.title (n + 1)) (argumentsTree m.handedTrees)) = _
  rw [argumentList_argumentsTree _ hitems]
  refine congrArg (Expr.call _) ?_
  simp only [handedTrees, List.map_append, takenName?]
  congr 1
  · congr 1
    · cases m.handed.truth? with
      | none => rfl
      | some b => cases b <;> rfl
    · exact congrArg (fun e => [Argument.plain e]) hliteral
  · cases m.handed.taken? <;> rfl

lemma toExpr_returns (htexts : m.HasTexts given text) (owner : String) :
    Tree.behindSign owner m.returnsTree = some (.constant (.text given)) := by
  obtain ⟨n, hn⟩ : ∃ n, Tree.mostDepth = n + 1 := ⟨9999, rfl⟩
  change some (Tree.toExpr owner _) = _
  rw [Tree.toExpr, hn]
  exact congrArg some (ofLiterals_of_piece htexts.returns 2 0)

lemma statements_functionTree (htexts : m.HasTexts given text)
    (hcomma : ∀ name ∈ m.takenName?, name ≠ ",") (n : Nat) :
    Tree.statements m.title (n + 4) m.functionTree = [m.function given text] := by
  have hgiven : (node "return_stmt" 0 [token ⟨.mark, "return", 3, 0⟩, m.givenTree]).items.map
      (Tree.simpleStatement m.title) = [.give (some (Tree.toExpr m.title m.givenTree))] := rfl
  rw [functionTree, Tree.statements, Tree.statements.definition, parameters_parametersTree,
    toExpr_returns htexts, bodyTree, statements_blockTree, Tree.statements, hgiven,
    toExpr_givenTree htexts hcomma]
  rfl

/-- **The statement of a delegation.** -/
lemma toStatements_tree (htexts : m.HasTexts given text)
    (hcomma : ∀ name ∈ m.takenName?, name ≠ ",") (hbase : m.base ≠ ",") :
    m.tree.toStatements = [m.cls given text] := by
  obtain ⟨n, hn⟩ : ∃ n, Tree.mostDepth = n + 9 := ⟨9991, rfl⟩
  have hbases : Tree.argumentList (Tree.toExpr "")
      (argumentsTree [token ⟨.name, m.base, 1, 1⟩]) = [.plain (.name (countedName "" m.base))] :=
    argumentList_argumentsTree _ fun n =>
      (List.flatMap_singleton _ _).trans (argumentTrees_token hbase n)
  rw [Tree.toStatements, hn, tree, fileTree, Tree.statements, statements_statementsTree, classTree,
    Tree.statements, basesTree, Tree.statements.definition, hbases, statements_blockTree]
  change [Stmt.cls [] m.title _ _ (Tree.statements m.title (n + 4) m.functionTree)] = _
  rw [statements_functionTree htexts hcomma]
  rfl

/-! #### The text is read -/

/-- The names in the method. -/
def names (m : Delegation) : List String :=
  [m.owner, m.base, m.name, m.callee] ++
    m.handed.taken?.toList.flatMap fun (name, type, form) => name :: type :: form.toList

/-- **The words of the method are words**: names that are no keywords, and literals. -/
structure IsWritten (m : Delegation) : Prop where
  names : ∀ s ∈ m.names, IsIdentifier s ∧ s ∉ keywords
  returns : IsLiteral m.returns
  literal : IsLiteral m.literal

lemma isIdentifier_self : IsIdentifier "self" ∧ "self" ∉ keywords := by decide

lemma IsWritten.stands (h : m.IsWritten) : Nested.Stands 0 m.words := by
  obtain ⟨owner, base, name, handed, returns, callee, literal⟩ := m
  obtain ⟨hnames, hreturns, hliteral⟩ := h
  have hself := isIdentifier_self
  have hcallee : IsIdentifier callee := (hnames callee (by simp [Delegation.names])).1
  obtain ⟨c, cs, hc, hstart, -⟩ := hcallee
  have hdigit := isDigit_of_isIdentifierStart hstart
  have hmark : c ≠ '.' ∧ c ≠ '=' := by
    constructor <;> rintro rfl <;> exact absurd hstart (by decide)
  rcases handed with _ | ⟨p, type, _ | form⟩ | ⟨truth, p, type, form⟩ <;>
    simp [Delegation.names, Handed.taken?] at hnames <;>
    simp [words, Handed.taken?, Handed.truth?, Nested.Stands, Word.StandAll, Word.Stands,
      Word.next, Word.chars, Word.opened, truthWord, hself, hnames, hreturns, hliteral, hc, hmark,
      hdigit]
  · decide
  · decide
  · decide
  · cases truth <;> decide

lemma IsWritten.isIdentifier (h : m.IsWritten) {name : String} (hname : name ∈ m.takenName?) :
    IsIdentifier name := by
  obtain ⟨taken, htaken, rfl⟩ := Option.map_eq_some_iff.1 hname
  refine (h.names taken.1 (List.mem_append_right _ ?_)).1
  rw [htaken]
  exact List.mem_append_left _ List.mem_cons_self

lemma readModule_eq (h : m.IsWritten) (htexts : m.HasTexts given text) :
    readModule m.text = (checkFlaw? m.tree).elim (.ok m.tree.toStatements) fun flaw =>
      .error (.malformed flaw) := by
  have hplain : '\x00' ∉ m.text.toList := by
    rw [Delegation.text, String.toList_ofList]
    exact fun hmem => (h.stands.plain _ hmem).2 rfl
  have htokens : tokensOf m.text = ⟨m.tokens.toArray, {}⟩ :=
    tokensOf_nested h.stands (show 3 ≤ Lexer.mostDepths by decide)
  rw [readModule, if_neg hplain, htokens, treeOf_tokens htexts]
  cases h : checkFlaw? m.tree <;> simp only [h, Option.elim]

/-- **A delegation is read** exactly if what it takes can be named so. -/
theorem readModule_text (h : m.IsWritten) (htexts : m.HasTexts given text)
    (howner : form m.owner ≠ Check.reserved) (hname : form m.name ≠ Check.reserved) :
    ((∃ read, readModule m.text = .ok read) ↔ ∀ name ∈ m.takenName?, CanName name) ∧
      ∀ read, readModule m.text = .ok read → read = [m.cls given text] := by
  have hflaw : checkFlaw? m.tree = none ↔ ∀ name ∈ m.takenName?, CanName name := by
    simp only [checkFlaw?_tree, Check.isReserved, decide_eq_false_iff_not, hname, howner,
      not_false_eq_true, and_true, CanName, ← forall_and]
  have hread := readModule_eq h htexts
  have hstatements : m.tree.toStatements = [m.cls given text] :=
    toStatements_tree htexts (fun name hname => (h.isIdentifier hname).ne_comma)
      (h.names m.base (by simp [names])).1.ne_comma
  rw [← hflaw]
  cases hcheck : checkFlaw? m.tree with
  | none =>
    rw [hcheck, hstatements] at hread
    exact ⟨iff_of_true ⟨_, hread⟩ rfl, fun read heq => (Except.ok.inj (hread.symm.trans heq)).symm⟩
  | some flaw =>
    rw [hcheck] at hread
    have hnot (read : List Stmt) : readModule m.text ≠ .ok read := by
      rw [hread]
      exact nofun
    exact ⟨iff_of_false (fun ⟨read, heq⟩ => hnot read heq) (Option.some_ne_none flaw),
      fun read heq => absurd heq (hnot read)⟩

end Delegation

end PgSchema.Source
