import Mathlib.Tactic.Lemma
import PgSchema.Source.Parser
import Std.Data.TreeMap.Lemmas

/-!
Readings of tokens with other words.

Of a token the rules see its sort; of a mark they see its text too, and of a name whether it is a
keyword in some places.  So tokens with other names and other literals in their places are read as
the same tree, with these in their places (`readAll_renamed`).  That goes for a reading in which
there is nothing to complain of: complaints tell names.
-/

namespace PgSchema.Source

/-! ### Trees -/

mutual

/-- A tree with other tokens. -/
def Tree.renamed (f : Token → Token) : Tree → Tree
  | .token t => .token (f t)
  | .node rule i parts => .node rule i (renamedAll f parts)
  | .many items => .many (renamedAll f items)
  | .absent => .absent

/-- Trees with other tokens. -/
def Tree.renamedAll (f : Token → Token) : List Tree → List Tree
  | [] => []
  | t :: ts => t.renamed f :: renamedAll f ts

end

/-- What a part of the text is read as, with other tokens. -/
def Outcome.renamed (f : Token → Token) : Outcome → Outcome
  | .found t behind => .found (t.renamed f) behind
  | o => o

section Trees

variable (f : Token → Token)

lemma Tree.renamedAll_eq_map (ts : List Tree) : Tree.renamedAll f ts = ts.map (Tree.renamed f) := by
  induction ts with
  | nil => rfl
  | cons t ts ih => rw [Tree.renamedAll, ih, List.map_cons]

lemma Tree.renamed_many (items : List Tree) :
    (Tree.many items).renamed f = .many (items.map (Tree.renamed f)) := by
  rw [Tree.renamed, Tree.renamedAll_eq_map]

lemma Outcome.renamed_many (found : List Tree) (place : Nat) :
    (Outcome.found (.many found.reverse) place).renamed f =
      .found (.many (found.map (Tree.renamed f)).reverse) place := by
  rw [Outcome.renamed, Tree.renamed_many, List.map_reverse]

lemma Tree.items_renamed (t : Tree) : (t.renamed f).items = t.items.map (Tree.renamed f) := by
  cases t with
  | many items => rw [Tree.renamed_many]; rfl
  | node rule i parts => rfl
  | token | absent => rfl

lemma Tree.isEmptyMany_renamed (t : Tree) : (t.renamed f).isEmptyMany = t.isEmptyMany := by
  cases t with
  | many items => cases items <;> rfl
  | token | node | absent => rfl

lemma Tree.renamed_ofParts (rule : String) (i : Nat) (parts : List Tree) :
    (Tree.ofParts rule i parts).renamed f = .ofParts rule i (parts.map (Tree.renamed f)) := by
  have hnode : ∀ ts : List Tree, (Tree.node rule i ts).renamed f =
      .node rule i (ts.map (Tree.renamed f)) :=
    fun ts => congrArg (Tree.node rule i) (Tree.renamedAll_eq_map f ts)
  rcases parts with _ | ⟨t, _ | ⟨u, _ | ⟨v, rest⟩⟩⟩
  · rfl
  · cases t with
    | token | node | absent => rfl
    | many items => exact hnode [.many items]
  · have hsame := u.isEmptyMany_renamed f
    cases hu : u.isEmptyMany <;> rw [hu] at hsame
    · have hboth {t u : Tree} (hu : u.isEmptyMany = false) :
          Tree.ofParts rule i [t, u] = .node rule i [t, u] := by
        cases t <;> simp [Tree.ofParts, hu]
      rw [hboth hu, List.map_cons, List.map_cons, List.map_nil, hboth hsame]
      exact hnode [t, u]
    · cases t with
      | token w => simp [Tree.ofParts, Tree.renamed, hu, hsame]
      | node r j children => simp [Tree.ofParts, Tree.renamed, hu, hsame]
      | many items => simpa [Tree.ofParts, Tree.renamed, hu, hsame] using hnode [.many items, u]
      | absent => simpa [Tree.ofParts, Tree.renamed, hu, hsame] using hnode [.absent, u]
  · cases t <;> exact hnode (_ :: u :: v :: rest)

lemma Outcome.renamed_eq_found {o : Outcome} {t' : Tree} {behind : Nat}
    (h : o.renamed f = .found t' behind) : ∃ t, o = .found t behind ∧ t' = t.renamed f := by
  cases o with
  | found t k =>
    obtain ⟨rfl, rfl⟩ := Outcome.found.inj h
    exact ⟨t, rfl, rfl⟩
  | failed | stopped | flawed => cases h

lemma Tree.renamed_eq_node {t : Tree} {rule : String} {i : Nat} {parts' : List Tree}
    (h : t.renamed f = .node rule i parts') :
    ∃ parts, t = .node rule i parts ∧ parts' = parts.map (Tree.renamed f) := by
  cases t with
  | node r k parts =>
    obtain ⟨rfl, rfl, rfl⟩ := Tree.node.inj h
    exact ⟨parts, rfl, Tree.renamedAll_eq_map f parts⟩
  | token | many | absent => cases h

lemma Tree.sort_of_mem_literals (t : Tree) : ∀ literal ∈ t.literals, literal.sort = .text := by
  intro literal h
  obtain ⟨item, -, hitem⟩ := List.mem_filterMap.1 h
  split at hitem
  · split at hitem
    · rename_i hsort
      exact Option.some.inj hitem ▸ hsort
    · cases hitem
  · cases hitem

end Trees

/-! ### Readings that follow each other -/

/-- A reading is flawed. -/
def Outcome.IsFlawed (o : Outcome) : Prop := ∃ flaw, o = .flawed flaw

lemma Outcome.isFlawed_bind {x : Parser} {k : Outcome → Parser} {p q : Progress} {o : Outcome}
    (hx : x p = (o, q)) (hk : (k o q).1.IsFlawed) : ((x >>= k) p).1.IsFlawed := by
  change (k (x p).1 (x p).2).1.IsFlawed
  rwa [hx]

/-- What is known after parts of two readings, the second with other tokens. -/
structure Progress.Alike (f : Token → Token) (p p' : Progress) : Prop where
  seen : p'.seen = p.seen
  kept : ∀ key, p'.kept.get? key = (p.kept.get? key).map (Outcome.renamed f)

/-- **A part of a reading follows another one** with other tokens, unless that one is flawed. -/
def Follows (f : Token → Token) (p p' : Progress) (x x' : Parser) : Prop :=
  (x p).1.IsFlawed ∨ ((x' p').1 = (x p).1.renamed f ∧ Progress.Alike f (x p).2 (x' p').2)

namespace Follows

variable {f : Token → Token} {p p' : Progress} {x x' : Parser} {k k' : Outcome → Parser}

lemma pure (h : Progress.Alike f p p') {o o' : Outcome} (ho : o' = o.renamed f) :
    Follows f p p' (pure o) (pure o') := .inr ⟨ho, h⟩

/-- One part after the other.  A flaw is passed on. -/
lemma bind (hx : Follows f p p' x x')
    (hflaw : ∀ flaw q, (k (.flawed flaw) q).1.IsFlawed)
    (hk : ∀ o q q', Progress.Alike f q q' → Follows f q q' (k o) (k' (o.renamed f))) :
    Follows f p p' (x >>= k) (x' >>= k') := by
  rcases hx with ⟨flaw, hx⟩ | ⟨ho, hq⟩
  · left
    change (k (x p).1 (x p).2).1.IsFlawed
    rw [hx]
    exact hflaw flaw _
  · have hnext := hk (x p).1 _ _ hq
    rw [← ho] at hnext
    exact hnext

end Follows

/-! ### Other tokens -/

mutual

/-- A part that a reading cannot pass where it would have to tell names apart: no mark is empty. -/
def Gram.strict : Gram → Gram
  | .soft => .forced ""
  | .group alternatives => .group (strictAlternatives alternatives)
  | .optional g => .optional g.strict
  | .many g => .many g.strict
  | .several g => .several g.strict
  | .separated mark g => .separated mark g.strict
  | .ahead g => .ahead g.strict
  | .notAhead g => .notAhead g.strict
  | .sort s => .sort s
  | .word text => .word text
  | .rule id => .rule id
  | .forced text => .forced text
  | .cut => .cut

/-- Parts in a row, which cannot be passed where names are told apart. -/
def Gram.strictParts : List Gram → List Gram
  | [] => []
  | g :: rest => g.strict :: strictParts rest

/-- Alternatives that cannot be passed where names are told apart. -/
def Gram.strictAlternatives : List (List Gram) → List (List Gram)
  | [] => []
  | parts :: rest => strictParts parts :: strictAlternatives rest

end

/-- An alternative that tells no names apart, and complains whenever it can complain at all. -/
def Alternative.strict (a : Alternative) : Alternative :=
  { parts := Gram.strictParts a.parts, complaint := a.complaint.map fun _ => ⟨"", 0, ""⟩ }

/-- A rule that tells no names apart, and makes all of its complaints. -/
def Rule.strict (rule : Rule) : Rule :=
  { rule with alternatives := rule.alternatives.map Alternative.strict }

/-- A grammar that tells no names apart, and makes all of its complaints. -/
def Grammar.strict (g : Grammar) : Grammar := g.map Rule.strict

/-- **Tokens that the rules cannot tell from others**: they only differ in names and literals. -/
structure Token.IsRenaming (f : Token → Token) (ts : Array Token) : Prop where
  others : ∀ t, t.sort ≠ .name → t.sort ≠ .text → f t = t
  words : ∀ t, ∃ text, f t = { t with text }
  marks : ∀ t ∈ ts, t.sort = .mark → t.text ≠ ""
  literals : ∀ t, t.sort = .text → (f t).text = t.text ∨
    ∃ s s', Literal.piece t.text = .ok (.text s) ∧ Literal.piece (f t).text = .ok (.text s')

section Readings

variable {g : Grammar} {tokens : Tokens} {f : Token → Token}

/-- A reading in which nothing is complained of, or whatever could be. -/
def Grammar.reading (g : Grammar) (tokens : Tokens) : Reading :=
  { grammar := g, tokens, complains := false }

/-- The same tokens with other words. -/
def Tokens.renamed (f : Token → Token) (tokens : Tokens) : Tokens :=
  { tokens with all := tokens.all.map f }

/-- Behind the tokens there is nothing but the end. -/
lemma Grammar.tokenAt_mem (g : Grammar) (tokens : Tokens) (place : Nat)
    (h : ((g.reading tokens).tokenAt place).sort ≠ .finish) :
    (g.reading tokens).tokenAt place ∈ tokens.all := by
  unfold Reading.tokenAt Grammar.reading at h ⊢
  rw [Array.getD_eq_getD_getElem?] at h ⊢
  cases hplace : tokens.all[place]? with
  | none =>
    rw [hplace] at h
    exact (h rfl).elim
  | some t => exact Array.mem_of_getElem? hplace

/-- What is read where a token is, with the flaw that the text ends with. -/
def Token.outcome (fits : Token → Bool) (behind : Nat) (e : Option Flaw) (t : Token) : Outcome :=
  match t.sort, e with
  | .broken, some flaw => .flawed flaw
  | _, _ => if fits t then .found (.token t) behind else .failed

lemma Reading.readToken_apply (r : Reading) (place : Nat) (fits : Token → Bool) (p : Progress) :
    r.readToken place fits p =
      ((r.tokenAt place).outcome fits (place + 1) r.tokens.ending.flaw,
        { p with seen := max p.seen (place + 1) }) := by
  unfold Reading.readToken Token.outcome
  generalize r.tokenAt place = t, r.tokens.ending.flaw = e
  obtain ⟨sort, text, line, level⟩ := t
  cases e <;> cases sort <;> rfl

/-- Literals that are joined are of the sort of the first one. -/
lemma Literal.isBytes_join (d q : Literal.Piece) : (Literal.join d q).isBytes = d.isBytes := by
  cases d <;> cases q <;> rfl

namespace Token.IsRenaming

variable (hf : Token.IsRenaming f tokens.all)

include hf

lemma sort (t : Token) : (f t).sort = t.sort := by
  obtain ⟨text, h⟩ := hf.words t
  rw [h]

lemma line (t : Token) : (f t).line = t.line := by
  obtain ⟨text, h⟩ := hf.words t
  rw [h]

lemma mark {t : Token} (h : t.sort = .mark) : f t = t := by
  refine hf.others t ?_ ?_ <;> rw [h] <;> decide

/-- Literals next to each other are read, whatever words they have. -/
lemma pieces {ts : List Token} (hts : ∀ t ∈ ts, t.sort = .text) {done done' : Option Literal.Piece}
    (hdone : done'.map Literal.Piece.isBytes = done.map Literal.Piece.isBytes)
    {found : Literal.Piece} (h : Literal.pieces done ts = .ok found) :
    ∃ found', Literal.pieces done' (ts.map f) = .ok found' := by
  induction ts generalizing done done' with
  | nil => exact ⟨_, rfl⟩
  | cons t ts ih =>
    obtain ⟨ht, hts⟩ := List.forall_mem_cons.1 hts
    rw [Literal.pieces] at h
    rw [List.map_cons, Literal.pieces]
    cases hpiece : Literal.piece t.text with
    | error flaw =>
      rw [hpiece] at h
      cases h
    | ok piece =>
      rw [hpiece] at h
      obtain ⟨piece', hpiece', hsame⟩ : ∃ piece', Literal.piece (f t).text = .ok piece' ∧
          piece'.isBytes = piece.isBytes := by
        rcases hf.literals t ht with heq | ⟨s, s', hs, hs'⟩
        · exact ⟨piece, heq ▸ hpiece, rfl⟩
        · obtain rfl := Except.ok.inj (hs.symm.trans hpiece)
          exact ⟨.text s', hs', rfl⟩
      have hpair : (some piece').map Literal.Piece.isBytes =
          (some piece).map Literal.Piece.isBytes := congrArg some hsame
      rw [hpiece']
      cases done with
      | none =>
        obtain rfl := Option.map_eq_none_iff.1 hdone
        exact ih hts hpair h
      | some d =>
        obtain ⟨d', rfl, hd⟩ := Option.map_eq_some_iff.1 hdone
        dsimp only at h ⊢
        rw [hd, hsame]
        split at h
        · rename_i hboth
          rw [if_pos hboth]
          have hjoined : (some (Literal.join d' piece')).map Literal.Piece.isBytes =
              (some (Literal.join d piece)).map Literal.Piece.isBytes := by
            refine congrArg some ?_
            rw [Literal.isBytes_join, Literal.isBytes_join, hd]
          exact ih hts hjoined h
        · cases h

lemma literals_renamed (t : Tree) : (t.renamed f).literals = t.literals.map f := by
  unfold Tree.literals
  rw [t.items_renamed f, List.filterMap_map, List.map_filterMap]
  refine congrArg (fun read => List.filterMap read t.items) (funext fun item => ?_)
  cases item with
  | token t =>
    change (if (f t).sort = .text then some (f t) else none) =
      (if t.sort = .text then some t else none).map f
    rw [hf.sort]
    split <;> rfl
  | node | many | absent => rfl

lemma literal_flaw? {ts : List Token} (hts : ∀ t ∈ ts, t.sort = .text) {last : Nat}
    (h : Literal.flaw? ts last = none) : Literal.flaw? (ts.map f) last = none := by
  unfold Literal.flaw? at h ⊢
  cases hpieces : Literal.pieces none ts with
  | ok found =>
    obtain ⟨found', hfound⟩ := hf.pieces hts rfl hpieces
    rw [hfound]
  | error e =>
    rw [hpieces] at h
    obtain ⟨flaw, line⟩ := e
    cases flaw <;> cases h

lemma literalFlaw? {rule : String} {o : Outcome} {last : Nat}
    (h : Reading.literalFlaw? rule o last = none) :
    Reading.literalFlaw? rule (o.renamed f) last = none := by
  unfold Reading.literalFlaw?
  split
  · rename_i i all' behind ho
    obtain ⟨t, rfl, ht⟩ := Outcome.renamed_eq_found f ho
    obtain ⟨parts, rfl, hparts⟩ := Tree.renamed_eq_node f ht.symm
    obtain ⟨all, rfl, rfl⟩ := List.map_eq_singleton_iff.1 hparts.symm
    change (if rule = "strings" then Literal.flaw? all.literals last else none) = none at h
    split at h
    · rename_i hrule
      rw [if_pos hrule, hf.literals_renamed]
      exact hf.literal_flaw? all.sort_of_mem_literals h
    · rename_i hrule
      rw [if_neg hrule]
  · rfl

lemma tokenAt (g g' : Grammar) (place : Nat) :
    (g'.reading (tokens.renamed f)).tokenAt place = f ((g.reading tokens).tokenAt place) := by
  have hend : f { sort := .finish, line := 0 } = { sort := .finish, line := 0 } :=
    hf.others _ (by decide) (by decide)
  unfold Reading.tokenAt Grammar.reading Tokens.renamed
  simp only [Array.getD_eq_getD_getElem?, Array.getElem?_map]
  cases tokens.all[place]? with
  | none => exact hend.symm
  | some t => rfl

/-- A token is looked at. -/
lemma readToken (place : Nat) {p p' : Progress} (hp : Progress.Alike f p p') {fits : Token → Bool}
    (hfits : fits (f ((g.strict.reading tokens).tokenAt place)) =
      fits ((g.strict.reading tokens).tokenAt place)) :
    Follows f p p' ((g.strict.reading tokens).readToken place fits)
      ((g.reading (tokens.renamed f)).readToken place fits) := by
  have hlook : Progress.Alike f { p with seen := max p.seen (place + 1) }
      { p' with seen := max p'.seen (place + 1) } :=
    ⟨congrArg (max · (place + 1)) hp.seen, hp.kept⟩
  have houtcome : ∀ (t : Token) (e : Option Flaw), fits (f t) = fits t →
      (t.outcome fits (place + 1) e).IsFlawed ∨
        (f t).outcome fits (place + 1) e = (t.outcome fits (place + 1) e).renamed f := by
    intro t e ht
    unfold Token.outcome
    rw [hf.sort, ht]
    split
    · exact .inl ⟨_, rfl⟩
    · right
      split <;> rfl
  unfold Follows
  rw [Reading.readToken_apply, Reading.readToken_apply, hf.tokenAt g.strict g place]
  exact (houtcome _ tokens.ending.flaw hfits).imp_right fun h => ⟨h, hlook⟩

/-- No mark is empty. -/
lemma isFlawed_forced_empty (place : Nat) (p : Progress) :
    (readGram (g.strict.reading tokens) 1 (.forced "") place p).1.IsFlawed := by
  let fits (t : Token) : Bool := t.sort = .mark && t.text = ""
  have hfits : fits ((g.strict.reading tokens).tokenAt place) = false := by
    by_cases hmark : ((g.strict.reading tokens).tokenAt place).sort = .mark
    · have hmem := g.strict.tokenAt_mem tokens place (by rw [hmark]; decide)
      simp [fits, hf.marks _ hmem hmark]
    · simp [fits, hmark]
  have houtcome : ∀ (t : Token) (e : Option Flaw), fits t = false →
      (t.outcome fits (place + 1) e).IsFlawed ∨ t.outcome fits (place + 1) e = .failed := by
    intro t e ht
    unfold Token.outcome
    rw [ht]
    split
    · exact .inl ⟨_, rfl⟩
    · exact .inr rfl
  rw [readGram]
  refine Outcome.isFlawed_bind ((g.strict.reading tokens).readToken_apply place fits p) ?_
  rcases houtcome _ (g.strict.reading tokens).tokens.ending.flaw hfits with ⟨flaw, h⟩ | h <;>
    rw [h] <;> exact ⟨_, rfl⟩

/-- A mark is looked for. -/
lemma readWord (text : String) (place : Nat) {p p' : Progress} (hp : Progress.Alike f p p') :
    Follows f p p'
      ((g.strict.reading tokens).readToken place fun t => t.sort = .mark && t.text = text)
      ((g.reading (tokens.renamed f)).readToken place fun t => t.sort = .mark && t.text = text) := by
  refine hf.readToken place hp ?_
  by_cases hmark : ((g.strict.reading tokens).tokenAt place).sort = .mark
  · rw [hf.mark hmark]
  · simp [hf.sort, hmark]

end Token.IsRenaming

/-! ### Rules -/

lemma Grammar.getD_strict (g : Grammar) (id : Nat) :
    g.strict.getD id default = (g.getD id default).strict := by
  unfold Grammar.strict
  rw [Array.getD_eq_getD_getElem?, Array.getD_eq_getD_getElem?, Array.getElem?_map]
  cases g[id]? <;> rfl

lemma Grammar.isLeftOut_strict (g : Grammar) (tokens tokens' : Tokens) (parts : List Gram) :
    (g.strict.reading tokens).isLeftOut (Gram.strictParts parts) =
      (g.reading tokens').isLeftOut parts := by
  have hrule : ∀ id, (g.strict.getD id default).isComplaint = (g.getD id default).isComplaint := by
    intro id
    rw [g.getD_strict]
    rfl
  rcases parts with _ | ⟨part, _ | ⟨other, rest⟩⟩
  · rfl
  · cases part with
    | rule id => exact congrArg (true && ·) (hrule id)
    | _ => rfl
  · cases part <;> rfl

/-- A rule that is read, in a reading that never complains. -/
lemma Grammar.readRule_reading (g : Grammar) (tokens : Tokens) (n id place : Nat) (p : Progress) :
    let rule := g.getD id default
    let key := place * g.size + id
    readRule (g.reading tokens) (n + 1) id place p =
      (match if rule.isKept then p.kept.get? key else none with
        | some o => (pure o : Parser)
        | none => do
          let o ← readRuleAlternatives (g.reading tokens) n rule.name 0 rule.alternatives place
          let o ← (g.reading tokens).checkLiterals rule.name o
          Reading.keep rule.isKept key o) p := by
  intro rule key
  have hinner : (if rule.isQuiet then { g.reading tokens with complains := false }
      else g.reading tokens) = g.reading tokens := ite_self (g.reading tokens)
  rw [readRule]
  change (match if rule.isKept then p.kept.get? key else none with
    | some o => (pure o : Parser)
    | none => _) p = _
  cases if rule.isKept then p.kept.get? key else none with
  | some o => rfl
  | none =>
    change (do
      let o ← readRuleAlternatives (if rule.isQuiet then { g.reading tokens with complains := false }
        else g.reading tokens) n rule.name 0 rule.alternatives place
      let o ← (g.reading tokens).checkLiterals rule.name o
      Reading.keep rule.isKept key o : Parser) p = _
    rw [hinner]

/-- What is read by an alternative. -/
lemma follows_conclude {p p' : Progress} (hp : Progress.Alike f p p') (rule : String) (index : Nat)
    (complaint : Option Complaint) (parts : List Tree) (behind : Nat) :
    Follows f p p' ((g.strict.reading tokens).conclude rule index
        (complaint.map fun _ => ⟨"", 0, ""⟩) parts behind)
      ((g.reading (tokens.renamed f)).conclude rule index complaint
        (parts.map (Tree.renamed f)) behind) := by
  cases complaint with
  | none => exact .pure hp (congrArg (Outcome.found · behind) (Tree.renamed_ofParts f ..).symm)
  | some c => exact .inl ⟨_, rfl⟩

/-- Literals are checked. -/
lemma follows_checkLiterals (hf : Token.IsRenaming f tokens.all) {p p' : Progress}
    (hp : Progress.Alike f p p') (rule : String) (o : Outcome) :
    Follows f p p' ((g.strict.reading tokens).checkLiterals rule o)
      ((g.reading (tokens.renamed f)).checkLiterals rule (o.renamed f)) := by
  have hrun : ∀ (r : Reading) (o : Outcome) (q : Progress), r.checkLiterals rule o q =
      (((Reading.literalFlaw? rule o (r.lastToken q).line).map Outcome.flawed).getD o, q) := by
    intro r o q
    unfold Reading.checkLiterals
    simp only [bind, get, getThe, MonadStateOf.get, StateT.bind, StateT.get, pure]
    cases Reading.literalFlaw? rule o (r.lastToken q).line <;> rfl
  have hline : ((g.reading (tokens.renamed f)).lastToken p').line =
      ((g.strict.reading tokens).lastToken p).line := by
    unfold Reading.lastToken
    rw [hf.tokenAt g.strict g, hf.line, hp.seen]
  unfold Follows
  rw [hrun, hrun, hline]
  cases hflaw : Reading.literalFlaw? rule o ((g.strict.reading tokens).lastToken p).line with
  | some flaw => exact .inl ⟨flaw, rfl⟩
  | none =>
    right
    rw [hf.literalFlaw? hflaw]
    exact ⟨rfl, hp⟩

/-- An outcome is kept. -/
lemma follows_keep {p p' : Progress} (hp : Progress.Alike f p p') (isKept : Bool) (key : Nat)
    (o : Outcome) : Follows f p p' (Reading.keep isKept key o)
      (Reading.keep isKept key (o.renamed f)) := by
  have hinsert : Progress.Alike f { p with kept := p.kept.insert key o }
      { p' with kept := p'.kept.insert key (o.renamed f) } := by
    refine ⟨hp.seen, fun other => ?_⟩
    change (p'.kept.insert key (o.renamed f))[other]? =
      ((p.kept.insert key o)[other]?).map (Outcome.renamed f)
    rw [Std.TreeMap.getElem?_insert, Std.TreeMap.getElem?_insert]
    split
    · rfl
    · exact hp.kept other
  cases o with
  | flawed flaw => exact .inl ⟨flaw, rfl⟩
  | found | failed | stopped =>
    cases isKept with
    | false => exact .pure hp rfl
    | true => exact .inr ⟨rfl, hinsert⟩

/-- All parts of readings of a depth follow each other. -/
structure Grammar.ReadsAlike (g : Grammar) (tokens : Tokens) (f : Token → Token) (n : Nat) : Prop where
  gram : ∀ part place p p', Progress.Alike f p p' →
    Follows f p p' (readGram (g.strict.reading tokens) n part.strict place)
      (readGram (g.reading (tokens.renamed f)) n part place)
  many : ∀ part found place p p', Progress.Alike f p p' →
    Follows f p p' (readMany (g.strict.reading tokens) n part.strict found place)
      (readMany (g.reading (tokens.renamed f)) n part (found.map (Tree.renamed f)) place)
  separated : ∀ mark part found place p p', Progress.Alike f p p' →
    Follows f p p' (readSeparated (g.strict.reading tokens) n mark part.strict found place)
      (readSeparated (g.reading (tokens.renamed f)) n mark part (found.map (Tree.renamed f)) place)
  parts : ∀ all isCut found place p p', Progress.Alike f p p' →
    Follows f p p' (readParts (g.strict.reading tokens) n (Gram.strictParts all) isCut found place)
      (readParts (g.reading (tokens.renamed f)) n all isCut (found.map (Tree.renamed f)) place)
  group : ∀ index alternatives place p p', Progress.Alike f p p' →
    Follows f p p'
      (readGroup (g.strict.reading tokens) n index (Gram.strictAlternatives alternatives) place)
      (readGroup (g.reading (tokens.renamed f)) n index alternatives place)
  alternatives : ∀ rule index all place p p', Progress.Alike f p p' →
    Follows f p p'
      (readRuleAlternatives (g.strict.reading tokens) n rule index (all.map Alternative.strict)
        place)
      (readRuleAlternatives (g.reading (tokens.renamed f)) n rule index all place)
  rule : ∀ id place p p', Progress.Alike f p p' →
    Follows f p p' (readRule (g.strict.reading tokens) n id place)
      (readRule (g.reading (tokens.renamed f)) n id place)

namespace Grammar.ReadsAlike

variable {n : Nat}

/-- What is done with an outcome that is not a flaw. -/
lemma gram_succ (hf : Token.IsRenaming f tokens.all) (ih : g.ReadsAlike tokens f n) (part : Gram)
    (place : Nat) (p p' : Progress) (hp : Progress.Alike f p p') :
    Follows f p p' (readGram (g.strict.reading tokens) (n + 1) part.strict place)
      (readGram (g.reading (tokens.renamed f)) (n + 1) part place) := by
  cases part with
  | sort s =>
    rw [Gram.strict, readGram, readGram]
    exact hf.readToken place hp (by rw [hf.sort])
  | soft =>
    rw [Gram.strict, readGram, readGram]
    exact .inl (hf.isFlawed_forced_empty place p)
  | word text =>
    rw [Gram.strict, readGram, readGram]
    exact hf.readWord text place hp
  | forced text =>
    rw [Gram.strict, readGram, readGram]
    refine (hf.readWord text place hp).bind (fun flaw q => ⟨flaw, rfl⟩) fun o q q' hq => ?_
    cases o with
    | failed => exact .inl ⟨_, rfl⟩
    | found | stopped | flawed => exact .pure hq rfl
  | rule id =>
    rw [Gram.strict, readGram, readGram]
    exact ih.rule id place p p' hp
  | group alternatives =>
    rw [Gram.strict, readGram, readGram]
    exact ih.group 0 alternatives place p p' hp
  | optional part =>
    rw [Gram.strict, readGram, readGram]
    refine (ih.gram part place p p' hp).bind (fun flaw q => ⟨flaw, rfl⟩) fun o q q' hq => ?_
    cases o with
    | found | failed | stopped | flawed => exact .pure hq rfl
  | many part =>
    rw [Gram.strict, readGram, readGram]
    exact ih.many part [] place p p' hp
  | several part =>
    rw [Gram.strict, readGram, readGram]
    refine (ih.gram part place p p' hp).bind (fun flaw q => ⟨flaw, rfl⟩) fun o q q' hq => ?_
    cases o with
    | found t behind => exact ih.many part [t] behind q q' hq
    | failed | stopped | flawed => exact .pure hq rfl
  | separated mark part =>
    rw [Gram.strict, readGram, readGram]
    refine (ih.gram part place p p' hp).bind (fun flaw q => ⟨flaw, rfl⟩) fun o q q' hq => ?_
    cases o with
    | found t behind => exact ih.separated mark part [t] behind q q' hq
    | failed | stopped | flawed => exact .pure hq rfl
  | ahead part =>
    rw [Gram.strict, readGram, readGram]
    refine (ih.gram part place p p' hp).bind (fun flaw q => ⟨flaw, rfl⟩) fun o q q' hq => ?_
    cases o with
    | found | failed | stopped | flawed => exact .pure hq rfl
  | notAhead part =>
    rw [Gram.strict, readGram, readGram]
    refine (ih.gram part place p p' hp).bind (fun flaw q => ⟨flaw, rfl⟩) fun o q q' hq => ?_
    cases o with
    | found | failed | stopped | flawed => exact .pure hq rfl
  | cut =>
    rw [Gram.strict, readGram, readGram]
    exact .pure hp rfl

lemma many_succ (ih : g.ReadsAlike tokens f n) (part : Gram) (found : List Tree) (place : Nat)
    (p p' : Progress) (hp : Progress.Alike f p p') :
    Follows f p p' (readMany (g.strict.reading tokens) (n + 1) part.strict found place)
      (readMany (g.reading (tokens.renamed f)) (n + 1) part (found.map (Tree.renamed f))
        place) := by
  rw [readMany, readMany]
  refine (ih.gram part place p p' hp).bind (fun flaw q => ⟨flaw, rfl⟩) fun o q q' hq => ?_
  have hdone := (Outcome.renamed_many f found place).symm
  cases o with
  | found t behind => exact ih.many part (t :: found) behind q q' hq
  | failed | stopped => exact .pure hq hdone
  | flawed flaw => exact .pure hq rfl

lemma separated_succ (hf : Token.IsRenaming f tokens.all) (ih : g.ReadsAlike tokens f n)
    (mark : String) (part : Gram) (found : List Tree) (place : Nat)
    (p p' : Progress) (hp : Progress.Alike f p p') :
    Follows f p p' (readSeparated (g.strict.reading tokens) (n + 1) mark part.strict found place)
      (readSeparated (g.reading (tokens.renamed f)) (n + 1) mark part
        (found.map (Tree.renamed f)) place) := by
  rw [readSeparated, readSeparated]
  have hdone := (Outcome.renamed_many f found place).symm
  refine (hf.readWord mark place hp).bind (fun flaw q => ⟨flaw, rfl⟩) fun o q q' hq => ?_
  cases o with
  | failed | stopped => exact .pure hq hdone
  | flawed flaw => exact .pure hq rfl
  | found _ inner =>
    refine (ih.gram part inner q q' hq).bind (fun flaw q => ⟨flaw, rfl⟩) fun o q q' hq => ?_
    cases o with
    | found t behind => exact ih.separated mark part (t :: found) behind q q' hq
    | failed | stopped => exact .pure hq hdone
    | flawed flaw => exact .pure hq rfl

lemma parts_succ (ih : g.ReadsAlike tokens f n) (all : List Gram) (isCut : Bool)
    (found : List Tree) (place : Nat) (p p' : Progress) (hp : Progress.Alike f p p') :
    Follows f p p' (readParts (g.strict.reading tokens) (n + 1) (Gram.strictParts all) isCut found place)
      (readParts (g.reading (tokens.renamed f)) (n + 1) all isCut (found.map (Tree.renamed f))
        place) := by
  cases all with
  | nil =>
    rw [Gram.strictParts, readParts, readParts]
    · exact .pure hp (Outcome.renamed_many f found place).symm
    all_goals intro h; cases h
  | cons part rest =>
    rw [Gram.strictParts, readParts, readParts]
    refine (ih.gram part place p p' hp).bind (fun flaw q => ⟨flaw, rfl⟩) fun o q q' hq => ?_
    cases o with
    | found t behind =>
      cases part with
      | ahead | notAhead => exact ih.parts rest isCut found place q q' hq
      | cut => exact ih.parts rest true found place q q' hq
      | _ => exact ih.parts rest isCut (t :: found) behind q q' hq
    | failed =>
      cases isCut <;> exact .pure hq rfl
    | stopped | flawed => exact .pure hq rfl

lemma group_succ (ih : g.ReadsAlike tokens f n) (index : Nat) (alternatives : List (List Gram))
    (place : Nat) (p p' : Progress) (hp : Progress.Alike f p p') :
    Follows f p p'
      (readGroup (g.strict.reading tokens) (n + 1) index (Gram.strictAlternatives alternatives)
        place)
      (readGroup (g.reading (tokens.renamed f)) (n + 1) index alternatives place) := by
  cases alternatives with
  | nil =>
    rw [Gram.strictAlternatives, readGroup, readGroup]
    · exact .pure hp rfl
    all_goals intro h; cases h
  | cons parts rest =>
    rw [Gram.strictAlternatives, readGroup, readGroup, g.isLeftOut_strict tokens (tokens.renamed f)]
    split
    · exact ih.group (index + 1) rest place p p' hp
    refine (ih.parts parts false [] place p p' hp).bind (fun flaw q => ⟨flaw, rfl⟩)
      fun o q q' hq => ?_
    cases o with
    | found t behind =>
      change Follows f q q' _ ((g.reading (tokens.renamed f)).conclude "" index none
        (t.renamed f).items behind)
      rw [t.items_renamed f]
      exact follows_conclude hq "" index none t.items behind
    | failed => exact ih.group (index + 1) rest place q q' hq
    | stopped | flawed => exact .pure hq rfl

lemma alternatives_succ (ih : g.ReadsAlike tokens f n) (rule : String) (index : Nat)
    (all : List Alternative) (place : Nat) (p p' : Progress) (hp : Progress.Alike f p p') :
    Follows f p p'
      (readRuleAlternatives (g.strict.reading tokens) (n + 1) rule index
        (all.map Alternative.strict) place)
      (readRuleAlternatives (g.reading (tokens.renamed f)) (n + 1) rule index all place) := by
  cases all with
  | nil =>
    rw [List.map_nil, readRuleAlternatives, readRuleAlternatives]
    · exact .pure hp rfl
    all_goals intro h; cases h
  | cons a rest =>
    have hleft := g.isLeftOut_strict tokens (tokens.renamed f) a.parts
    rw [List.map_cons, readRuleAlternatives, readRuleAlternatives]
    change Follows f p p'
      (if (g.strict.reading tokens).isLeftOut (Gram.strictParts a.parts) then _ else _) _
    rw [hleft]
    split
    · exact ih.alternatives rule (index + 1) rest place p p' hp
    refine (ih.parts a.parts false [] place p p' hp).bind (fun flaw q => ⟨flaw, rfl⟩)
      fun o q q' hq => ?_
    cases o with
    | found t behind =>
      have hconclude := @follows_conclude g tokens f q q' hq rule index a.complaint
        t.items behind
      rw [← t.items_renamed f] at hconclude
      refine hconclude.bind (fun flaw q => ⟨flaw, rfl⟩) fun o q q' hq => ?_
      cases o with
      | found | failed | stopped | flawed => exact .pure hq rfl
    | failed => exact ih.alternatives rule (index + 1) rest place q q' hq
    | stopped | flawed => exact .pure hq rfl

lemma rule_succ (hf : Token.IsRenaming f tokens.all) (ih : g.ReadsAlike tokens f n) (id : Nat)
    (place : Nat) (p p' : Progress) (hp : Progress.Alike f p p') :
    Follows f p p' (readRule (g.strict.reading tokens) (n + 1) id place)
      (readRule (g.reading (tokens.renamed f)) (n + 1) id place) := by
  let rule := g.getD id default
  let key := place * g.size + id
  have hrule : g.strict.getD id default = rule.strict := g.getD_strict id
  have hsize : g.strict.size = g.size := Array.size_map ..
  have hnow : Follows f p p'
      (do
        let o ← readRuleAlternatives (g.strict.reading tokens) n rule.name 0
          (rule.alternatives.map .strict) place
        let o ← (g.strict.reading tokens).checkLiterals rule.name o
        Reading.keep rule.isKept key o)
      (do
        let o ← readRuleAlternatives (g.reading (tokens.renamed f)) n rule.name 0
          rule.alternatives place
        let o ← (g.reading (tokens.renamed f)).checkLiterals rule.name o
        Reading.keep rule.isKept key o) :=
    (ih.alternatives rule.name 0 rule.alternatives place p p' hp).bind
      (fun flaw q => ⟨flaw, rfl⟩) fun o q q' hq =>
        (follows_checkLiterals hf hq rule.name o).bind (fun flaw q => ⟨flaw, rfl⟩)
          fun o q q' hq => follows_keep hq rule.isKept key o
  unfold Follows
  rw [g.strict.readRule_reading, g.readRule_reading, hrule, hsize]
  change Follows f p p'
    (match if rule.isKept then p.kept.get? key else none with
      | some o => pure o
      | none => _)
    (match if rule.isKept then p'.kept.get? key else none with
      | some o => pure o
      | none => _)
  by_cases hkept : rule.isKept
  · rw [if_pos hkept, if_pos hkept, hp.kept key]
    cases p.kept.get? key with
    | some o => exact .pure hp rfl
    | none => exact hnow
  · rw [if_neg hkept, if_neg hkept]
    exact hnow

end Grammar.ReadsAlike

/-- Readings of a grammar follow each other, whatever depth they have. -/
lemma Grammar.readsAlike (hf : Token.IsRenaming f tokens.all) :
    ∀ n, g.ReadsAlike tokens f n
  | 0 => {
      gram := fun _ _ _ _ hp => by rw [readGram, readGram]; exact .pure hp rfl
      many := fun _ found _ _ _ hp => by
        rw [readMany, readMany]
        exact .pure hp (Outcome.renamed_many f found _).symm
      separated := fun _ _ found _ _ _ hp => by
        rw [readSeparated, readSeparated]
        exact .pure hp (Outcome.renamed_many f found _).symm
      parts := fun _ _ _ _ _ _ hp => by rw [readParts, readParts]; exact .pure hp rfl
      group := fun _ _ _ _ _ hp => by rw [readGroup, readGroup]; exact .pure hp rfl
      alternatives := fun _ _ _ _ _ _ hp => by
        rw [readRuleAlternatives, readRuleAlternatives]
        exact .pure hp rfl
      rule := fun _ _ _ _ hp => by rw [readRule, readRule]; exact .pure hp rfl }
  | n + 1 =>
    have ih := Grammar.readsAlike hf n
    { gram := ih.gram_succ hf
      many := ih.many_succ
      separated := ih.separated_succ hf
      parts := ih.parts_succ
      group := ih.group_succ
      alternatives := ih.alternatives_succ
      rule := ih.rule_succ hf }

/-- A tree is what the reading without complaints finds. -/
lemma treeOf_eq_ok {t : Tree} :
    treeOf g tokens = .ok t ↔ ∃ behind, (readAll g tokens false {}).1 = .found t behind := by
  unfold treeOf
  rcases readAll g tokens false {} with ⟨o, p⟩
  constructor
  · intro h
    cases o with
    | found u behind => exact ⟨behind, by rw [Except.ok.inj h]⟩
    | flawed flaw => cases h
    | failed | stopped =>
      exfalso
      dsimp only at h
      split at h
      · cases h
      · split at h <;> cases h
  · rintro ⟨behind, rfl⟩
    rfl

/-- **Tokens with other words are read as the same tree**, with these in their places. -/
theorem treeOf_renamed (hf : Token.IsRenaming f tokens.all) {t : Tree}
    (h : treeOf g.strict tokens = .ok t) : treeOf g (tokens.renamed f) = .ok (t.renamed f) := by
  obtain ⟨behind, hfound⟩ := treeOf_eq_ok.1 h
  have hsize : (tokens.renamed f).all.size = tokens.all.size := Array.size_map ..
  have hread := (Grammar.readsAlike hf (mostReadings tokens.all.size) : g.ReadsAlike tokens f _).rule 0 0 {} {}
    ⟨rfl, fun _ => rfl⟩
  rcases hread with ⟨flaw, hflaw⟩ | ⟨ho, -⟩
  · cases hflaw.symm.trans hfound
  · refine treeOf_eq_ok.2 ⟨behind, ?_⟩
    unfold readAll
    rw [hsize]
    exact ho.trans (congrArg (Outcome.renamed f) hfound)

end Readings

end PgSchema.Source
