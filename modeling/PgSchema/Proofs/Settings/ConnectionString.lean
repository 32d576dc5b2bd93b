import Mathlib.Data.List.Basic
import Mathlib.Data.List.Infix
import Mathlib.Tactic.Lemma
import PgSchema.Settings.ConnectionString

/-!
What a connection string tells about the parts that it was put together from.

The parts stand between marks, and nothing is escaped.  A reader that takes the user information up
to the first `@`, and in it the user up to the first colon, then the host up to a colon, the port up
to a slash and the database up to the question mark (`read?`) gets the parts back just if no part
has in it the mark that it ends with (`Legible`).  Among such parts the string determines them all;
beyond them other parts have the same string.
-/

namespace PgSchema.Settings

/-! ### A text cut at a mark -/

/-- What stands before the first mark, and what stands behind it. -/
def cut? (mark : List Char) : List Char → Option (List Char × List Char)
  | [] => none
  | c :: cs =>
    match (c :: cs).dropPrefix? mark with
    | some rest => some ([], rest)
    | none => (cut? mark cs).map fun cut => (c :: cut.1, cut.2)

section Cut

variable {c d : Char} {w cs front rest : List Char}

lemma dropPrefix?_eq_some {mark : List Char} :
    cs.dropPrefix? mark = some rest ↔ cs = mark ++ rest := by
  rw [List.dropPrefix?_eq_some_iff]
  constructor
  · rintro ⟨start, rfl, hstart⟩
    rw [eq_of_beq hstart]
  · rintro rfl
    exact ⟨mark, rfl, beq_self_eq_true mark⟩

lemma dropPrefix?_append (mark rest : List Char) : (mark ++ rest).dropPrefix? mark = some rest :=
  dropPrefix?_eq_some.2 rfl

lemma dropPrefix?_eq_none {mark : List Char} :
    cs.dropPrefix? mark = none ↔ ¬ mark <+: cs := by
  rw [Option.eq_none_iff_forall_ne_some]
  constructor
  · rintro h ⟨rest, rfl⟩
    exact h rest (dropPrefix?_eq_some.2 rfl)
  · rintro h rest hrest
    exact h ⟨rest, (dropPrefix?_eq_some.1 hrest).symm⟩

/-- A mark whose first character comes but once in it does not begin within itself: it stands at the
front only if it stands within the front. -/
lemma prefix_of_prefix_append (hc : c ∉ w) (hne : front ≠ [])
    (h : c :: w <+: front ++ (c :: w ++ rest)) : c :: w <+: front := by
  rcases List.prefix_or_prefix_of_prefix h (List.prefix_append front _) with hin | ⟨tail, htail⟩
  · exact hin
  cases front with
  | nil => exact absurd rfl hne
  | cons d front =>
    obtain ⟨rfl, hw⟩ := List.cons.inj htail
    cases tail with
    | nil => exact ⟨[], by rw [List.append_nil, ← hw, List.append_eq, List.append_nil]⟩
    | cons e tail =>
      -- the mark would reach into the one behind the front, with its first character again
      have hnext : front ++ e :: tail <+: front ++ (d :: w ++ rest) := by
        rw [← List.append_eq, hw]
        exact (List.cons_prefix_cons.1 h).2
      have he := (List.cons_prefix_cons.1 ((List.prefix_append_right_inj _).1 hnext)).1
      refine absurd ?_ hc
      rw [← hw, ← he]
      exact List.mem_append_right _ List.mem_cons_self

/-- **A cut is at the first mark**: before it no other one stands. -/
theorem cut?_eq_some_iff (hc : c ∉ w) :
    cut? (c :: w) cs = some (front, rest) ↔
      cs = front ++ (c :: w ++ rest) ∧ ¬ c :: w <:+: front := by
  induction cs generalizing front with
  | nil => simp [cut?]
  | cons d cs ih =>
    rw [cut?]
    cases hdrop : (d :: cs).dropPrefix? (c :: w) with
    | some tail =>
      have hcs := dropPrefix?_eq_some.1 hdrop
      constructor
      · rintro ⟨⟩
        exact ⟨hcs, by simp⟩
      · rintro ⟨heq, hfront⟩
        -- a mark at the very front leaves nothing to stand before the cut
        cases front with
        | nil =>
          rw [hcs] at heq
          rw [List.append_cancel_left heq]
        | cons e front =>
          refine absurd (List.IsPrefix.isInfix ?_) hfront
          exact prefix_of_prefix_append hc (List.cons_ne_nil e front)
            (heq ▸ hcs ▸ List.prefix_append _ _)
    | none =>
      have hno := dropPrefix?_eq_none.1 hdrop
      rw [Option.map_eq_some_iff]
      constructor
      · rintro ⟨⟨before, behind⟩, hcut, hpair⟩
        obtain ⟨rfl, rfl⟩ := Prod.mk.inj hpair
        obtain ⟨rfl, hbefore⟩ := ih.1 hcut
        refine ⟨rfl, fun hin => ?_⟩
        rcases List.infix_cons_iff.1 hin with hfront | hin
        · exact hno (hfront.trans (List.prefix_append (d :: before) _))
        · exact hbefore hin
      · rintro ⟨heq, hfront⟩
        cases front with
        | nil => exact absurd ⟨rest, heq.symm⟩ hno
        | cons e front =>
          obtain ⟨rfl, hcs⟩ := List.cons.inj heq
          exact ⟨(front, rest), ih.2 ⟨hcs, fun hin => hfront (List.infix_cons hin)⟩, rfl⟩

/-- Without a mark there is no cut. -/
lemma cut?_eq_none_iff {mark : List Char} (hmark : mark ≠ []) :
    cut? mark cs = none ↔ ¬ mark <:+: cs := by
  induction cs with
  | nil => simp [cut?, hmark]
  | cons d cs ih =>
    rw [cut?, List.infix_cons_iff, not_or]
    cases hdrop : (d :: cs).dropPrefix? mark with
    | some rest =>
      have hfront : mark <+: d :: cs := ⟨rest, (dropPrefix?_eq_some.1 hdrop).symm⟩
      simp [hfront]
    | none => simp [dropPrefix?_eq_none.1 hdrop, ih]

end Cut

/-! ### Parts read -/

namespace ConnectionParts

/-- What a connection string begins with. -/
def scheme : List Char := "postgresql://".toList

/-- What stands before the mode of encryption. -/
def modeMark : List Char := "?sslmode=".toList

/-- The user and the password of user information.  A colon with nothing behind it is refused, since
without a password there is none. -/
def readCredentials? (cs : List Char) : Option (List Char × List Char) :=
  match cut? [':'] cs with
  | none => some (cs, [])
  | some (_, []) => none
  | some (user, password) => some (user, password)

/-- The parts of a connection string. -/
def read? (s : String) : Option ConnectionParts := do
  let (credentials, rest) ← cut? ['@'] (← s.toList.dropPrefix? scheme)
  let (user, password) ← readCredentials? credentials
  let (host, rest) ← cut? [':'] rest
  let (port, rest) ← cut? ['/'] rest
  let (database, sslmode) ← cut? modeMark rest
  return {
    user := String.ofList user
    password := String.ofList password
    host := String.ofList host
    port := String.ofList port
    database := String.ofList database
    sslmode := String.ofList sslmode }

/-- **No part has the mark in it that it ends with**, and the user has no colon. -/
structure Legible (p : ConnectionParts) : Prop where
  user : ':' ∉ p.user.toList
  credentials : '@' ∉ p.user.toList ∧ '@' ∉ p.password.toList
  host : ':' ∉ p.host.toList
  port : '/' ∉ p.port.toList
  database : ¬ modeMark <:+: p.database.toList

/-- The user information of parts. -/
def credentials (user password : List Char) : List Char :=
  if password = [] then user else user ++ ':' :: password

section Reading

variable {p q : ConnectionParts} {s : String} {c : Char} {cs user password front rest : List Char}

/-- A cut at a single character. -/
lemma cut?_char : cut? [c] cs = some (front, rest) ↔ cs = front ++ c :: rest ∧ c ∉ front := by
  rw [cut?_eq_some_iff (List.not_mem_nil), List.singleton_infix_iff]
  rfl

lemma cut?_append (hc : c ∉ front) : cut? [c] (front ++ c :: rest) = some (front, rest) :=
  cut?_char.2 ⟨rfl, hc⟩

lemma cut?_modeMark :
    cut? modeMark cs = some (front, rest) ↔
      cs = front ++ (modeMark ++ rest) ∧ ¬ modeMark <:+: front :=
  cut?_eq_some_iff (by decide)

lemma readCredentials?_credentials (huser : ':' ∉ user) :
    readCredentials? (credentials user password) = some (user, password) := by
  unfold readCredentials? credentials
  cases password with
  | nil =>
    have hcut : cut? [':'] user = none := by
      rw [cut?_eq_none_iff (List.cons_ne_nil _ _), List.singleton_infix_iff]
      exact huser
    rw [if_pos rfl, hcut]
  | cons c password => rw [if_neg (List.cons_ne_nil c password), cut?_char.2 ⟨rfl, huser⟩]

lemma readCredentials?_eq_some_iff :
    readCredentials? cs = some (user, password) ↔
      cs = credentials user password ∧ ':' ∉ user := by
  constructor
  · intro h
    unfold readCredentials? at h
    split at h
    · next hcut =>
      obtain ⟨rfl, rfl⟩ := Prod.mk.inj (Option.some.inj h)
      rw [cut?_eq_none_iff (List.cons_ne_nil _ _), List.singleton_infix_iff] at hcut
      exact ⟨(if_pos rfl).symm, hcut⟩
    · cases h
    · next hbehind hcut =>
      obtain ⟨rfl, rfl⟩ := Prod.mk.inj (Option.some.inj h)
      obtain ⟨rfl, hbefore⟩ := cut?_char.1 hcut
      exact ⟨(if_neg hbehind).symm, hbefore⟩
  · rintro ⟨rfl, huser⟩
    exact readCredentials?_credentials huser

lemma at_notMem_credentials :
    '@' ∉ credentials user password ↔ '@' ∉ user ∧ '@' ∉ password := by
  unfold credentials
  split
  · next hpassword => simp [hpassword]
  · simp

lemma toList_credentials (p : ConnectionParts) :
    (if p.password = "" then p.user else p.user ++ ":" ++ p.password).toList =
      credentials p.user.toList p.password.toList := by
  unfold credentials
  by_cases hpassword : p.password = ""
  · rw [if_pos hpassword, if_pos (String.toList_eq_nil_iff.2 hpassword)]
  · rw [if_neg hpassword, if_neg (mt String.toList_eq_nil_iff.1 hpassword), String.toList_append,
      String.toList_append, List.append_assoc]
    rfl

lemma toList_text (p : ConnectionParts) : p.text.toList =
    scheme ++ (credentials p.user.toList p.password.toList ++ '@' ::
      (p.host.toList ++ ':' :: (p.port.toList ++ '/' ::
        (p.database.toList ++ (modeMark ++ p.sslmode.toList))))) := by
  unfold text
  simp only [String.toList_append, List.append_assoc, toList_credentials]
  rfl

/-- What is read is written that way, and legible. -/
lemma of_read? (h : read? s = some p) : s = p.text ∧ p.Legible := by
  simp only [read?, Option.bind_eq_bind, Option.bind_eq_some_iff, Prod.exists] at h
  obtain ⟨behind, hscheme, info, place, hat, user, password, hinfo, host, behindHost, hhost, port,
    behindPort, hport, database, sslmode, hdatabase, ⟨⟩⟩ := h
  obtain ⟨rfl, huser⟩ := readCredentials?_eq_some_iff.1 hinfo
  obtain ⟨rfl, hinfoAt⟩ := cut?_char.1 hat
  obtain ⟨rfl, hcolon⟩ := cut?_char.1 hhost
  obtain ⟨rfl, hslash⟩ := cut?_char.1 hport
  obtain ⟨rfl, hmode⟩ := cut?_modeMark.1 hdatabase
  constructor
  · apply String.toList_injective
    rw [toList_text, dropPrefix?_eq_some.1 hscheme]
    simp only [String.toList_ofList]
  · constructor <;> simp only [String.toList_ofList]
    · exact huser
    · exact at_notMem_credentials.1 hinfoAt
    · exact hcolon
    · exact hslash
    · exact hmode

/-- **Parts are read back just if they are legible.** -/
theorem read?_eq_some_iff : read? s = some p ↔ s = p.text ∧ p.Legible := by
  constructor
  · exact of_read?
  · rintro ⟨rfl, h⟩
    have hinfo := at_notMem_credentials.2 h.credentials
    simp only [read?, toList_text, dropPrefix?_append, Option.bind_eq_bind, Option.bind_some,
      cut?_append hinfo, readCredentials?_credentials h.user, cut?_append h.host,
      cut?_append h.port, cut?_modeMark.2 ⟨rfl, h.database⟩, String.ofList_toList]
    rfl

end Reading

/-! ### Two environments -/

section Environments

variable {env env' : Environment} {s s' : String}

/-- Without a string of its own, an environment has the string of its parts. -/
lemma exists_load (hno : env.filled? "DATABASE_URL" = none) (h : connectionString env = .ok s) :
    ∃ p, load? env = some p ∧ s = p.text := by
  unfold connectionString at h
  rw [hno] at h
  dsimp only at h
  cases hload : load? env with
  | none =>
    rw [hload] at h
    cases h
  | some p =>
    rw [hload] at h
    exact ⟨p, rfl, (Except.ok.inj h).symm⟩

/-- **A connection string determines its parts just as far as they are legible.**  Each string is
read as the parts that it was put together from if and only if they are legible, and where both
environments have legible parts, their strings are the same just if the parts are. -/
theorem strings_determine_parts (hno : env.filled? "DATABASE_URL" = none)
    (hno' : env'.filled? "DATABASE_URL" = none) (h : connectionString env = .ok s)
    (h' : connectionString env' = .ok s') :
    ∃ p p', load? env = some p ∧ load? env' = some p' ∧
      (read? s = some p ↔ p.Legible) ∧ (read? s' = some p' ↔ p'.Legible) ∧
      (p.Legible → p'.Legible → (s = s' ↔ p = p')) := by
  obtain ⟨p, hload, rfl⟩ := exists_load hno h
  obtain ⟨p', hload', rfl⟩ := exists_load hno' h'
  have hread : ∀ q : ConnectionParts, read? q.text = some q ↔ q.Legible := fun q => by
    rw [read?_eq_some_iff]
    exact and_iff_right rfl
  refine ⟨p, p', hload, hload', hread p, hread p', fun hp hp' => ⟨fun htext => ?_, ?_⟩⟩
  · apply Option.some.inj
    rw [← (hread p).2 hp, ← (hread p').2 hp', htext]
  · rintro rfl
    rfl

/-- Variables of a host and a database, and of the user that is given. -/
def hostAnd (user : Environment) : Environment :=
  [("POSTGRES_HOST", "h"), ("POSTGRES_DB", "d")] ++ user

/-- A user with a colon in it has the string of another user with a password, and that is what is
read. -/
theorem strings_determine_parts_colon :
    connectionString (hostAnd [("POSTGRES_USER", "a:b")]) =
      connectionString (hostAnd [("POSTGRES_USER", "a"), ("POSTGRES_PASSWORD", "b")]) ∧
    ∃ p p', load? (hostAnd [("POSTGRES_USER", "a:b")]) = some p ∧
      load? (hostAnd [("POSTGRES_USER", "a"), ("POSTGRES_PASSWORD", "b")]) = some p' ∧
      p ≠ p' ∧ read? p.text ≠ some p ∧ read? p.text = some p' := by
  have hno : (hostAnd [("POSTGRES_USER", "a:b")]).filled? "DATABASE_URL" = none := rfl
  have hno' : (hostAnd [("POSTGRES_USER", "a"), ("POSTGRES_PASSWORD", "b")]).filled?
      "DATABASE_URL" = none := rfl
  obtain ⟨p, p', hload, hload', hread, hread', -⟩ := strings_determine_parts hno hno' rfl rfl
  obtain rfl := Option.some.inj hload
  obtain rfl := Option.some.inj hload'
  refine ⟨rfl, _, _, rfl, rfl, by decide, ?_, ?_⟩
  · exact fun h => (hread.1 h).user (by decide)
  · exact hread'.2 ⟨by decide, by decide, by decide, by decide, by decide⟩

end Environments

end ConnectionParts

end PgSchema.Settings
