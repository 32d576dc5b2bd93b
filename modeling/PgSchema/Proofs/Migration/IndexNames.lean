import PgSchema.Proofs.Digest.Sha256
import PgSchema.Proofs.Migration.Metadata
import PgSchema.Proofs.Migration.Plan
import PgSchema.Proofs.Schema.Owners

/-!
Indexes: whose a migration takes them to be, and how they are named.

The indexes that are told are not told of a table; each shows by its text whose it is, and the text
is looked for anywhere in the statement.  All indexes of the table are found like this, and besides
them those of any table whose name, or whose column's name, has the table's name in it as a
statement would have it (`Table.SeemsOf`).  They are taken for indexes of the table, and dropped,
since it does not declare them (`considers_iff`).

A generated name shows as much of the table and the columns as fits, in whole characters
(`Text.LongestFront`), and ends with the digest of the exact names.  What the digest is taken of
tells the names apart (`Index.digestInput_inj`), so the rows of a schema go by different keys as
long as no two digests are the same by accident.
-/

namespace PgSchema

open Identifier (quote)

/-- **An index on a column of a table that seems to be one of another**, whose name is given. -/
def Table.SeemsOf (name table column : String) : Prop :=
  Poses name.toList table.toList ∨ Poses name.toList column.toList ∨
    Spans name.toList table.toList column.toList

namespace Migration

variable {t : Table}

lemma toList_ownerText (t : Table) : (ownerText t).toList = Table.ownerChars t.name.toList := by
  unfold ownerText Table.ownerChars
  rw [String.toList_append, String.toList_append, Identifier.toList_quote]
  simp only [List.append_assoc, List.cons_append, List.nil_append]

lemma toList_indexText_eq (table column : String) : (Table.indexText (table, column)).toList =
    Table.statementChars (Index.name Index.defaultStart table [column]).toList table.toList
      column.toList := by
  unfold Table.statementChars Table.tailChars
  rw [Table.toList_indexText]
  simp only [Identifier.toList_quote, List.append_assoc, List.cons_append, List.nil_append]

/-- **Whose an index seems to be**: that of its table, and of those whose names stand in it. -/
lemma occurs_ownerText_iff (t : Table) (table column : String) :
    Text.occurs (ownerText t) (Table.indexText (table, column)) = true ↔
      t.name = table ∨ Table.SeemsOf t.name table column := by
  rw [Text.occurs_iff, toList_ownerText, toList_indexText_eq,
    Table.ownerChars_infix_iff (Table.name_not_ends table column), String.toList_inj,
    Table.SeemsOf]
  constructor
  · rintro (h | h | h | h | h)
    · exact Or.inl h
    · exact Or.inr ((Table.poses_of_name h).imp_right Or.inl)
    · exact Or.inr (Or.inl h)
    · exact Or.inr (Or.inr (Or.inl h))
    · exact Or.inr (Or.inr (Or.inr h))
  · rintro (h | h | h | h)
    · exact Or.inl h
    · exact Or.inr (Or.inr (Or.inl h))
    · exact Or.inr (Or.inr (Or.inr (Or.inl h)))
    · exact Or.inr (Or.inr (Or.inr (Or.inr h)))

/-- **What a migration takes for the indexes of a table**: its own, and those that seem to be.  They
are what is dropped unless the table declares them, and only what it declares is created. -/
theorem considers_iff (t : Table) :
    (∀ u : Table, u.IsBuilt → ∀ s ∈ u.indexStatements, (Text.occurs (ownerText t) s = true ↔
      t.name = u.name ∨ ∃ column, s = Table.indexText (u.name, column) ∧
        Table.SeemsOf t.name u.name column)) ∧
    ∀ (p : Persisted) (told : Entries String), p.indexes = Told.ofTexts told →
      (told.map Prod.fst).Nodup → (∀ e ∈ told, ∃ u : Table, u.IsBuilt ∧ e ∈ u.indexEntries) →
      t.IsBuilt → (t.indexEntries.map Prod.fst).Nodup →
      ∃ (w : Work) (own : Entries String), keptWork p t = .ok w ∧ w.stop = none ∧
        (own.map Prod.fst).Nodup ∧
        (∀ e, e ∈ own ↔ e ∈ told ∧ ∃ table column, e.2 = Table.indexText (table, column) ∧
          (t.name = table ∨ Table.SeemsOf t.name table column)) ∧
        w.statements = ((own.filter fun e => e ∉ t.indexEntries).map fun e =>
          "DROP INDEX IF EXISTS " ++ quote e.1) ++
            (t.indexEntries.filter fun e => e ∉ own).map Prod.snd := by
  constructor
  · intro u hu s hs
    rw [hu.indexStatements_eq_map] at hs
    obtain ⟨e, he, rfl⟩ := List.mem_map.1 hs
    obtain ⟨column, -, rfl⟩ := List.mem_map.1 he
    rw [occurs_ownerText_iff]
    refine or_congr_right ⟨fun h => ⟨column, rfl, h⟩, ?_⟩
    rintro ⟨column', hsame, h⟩
    rwa [(Prod.mk.inj (Table.indexText_inj hsame)).2]
  · intro p told hindexes htold hfrom hb hnames
    obtain ⟨hstop, hstatements⟩ := indexWork_texts (nodup_ownedTexts htold t) hnames t
    refine ⟨_, ownedTexts t told, keptWork_of_texts hindexes (declaredIndexes_eq hb hnames), hstop,
      nodup_ownedTexts htold t, fun e => ?_, hstatements⟩
    rw [ownedTexts, List.mem_filter]
    refine and_congr_right fun he => ?_
    obtain ⟨u, -, hu⟩ := hfrom e he
    obtain ⟨column, -, rfl⟩ := List.mem_map.1 hu
    rw [occurs_ownerText_iff]
    refine ⟨fun h => ⟨u.name, column, rfl, h⟩, ?_⟩
    rintro ⟨table, column', hsame, h⟩
    obtain ⟨rfl, rfl⟩ := Prod.mk.inj (Table.indexText_inj hsame)
    exact h

/-! ### A table named by a quote -/

/-- The only column of a table. -/
def soleColumn (name : String) (kind : StorageKind) (indexed : Bool) : Column where
  name := name
  columnName := name
  kind := kind
  nullable := false
  indexed := indexed
  primaryKey := false
  autoId := false
  onConflict := .none

/-- A table whose name is a quote. -/
def quoteTable : Table := Table.ofColumns "\"" "A" [soleColumn "x" .long false]

/-- A table whose column's name has that quote where a statement would have the table's name. -/
def posedTable : Table := Table.ofColumns "u" "B" [soleColumn " ON \"\" (" .int true]

/-- What is told of both tables. -/
def toldOfPosed : Persisted where
  tables := [quoteTable, posedTable].map fun t => (.text t.name, .text t.createStatement)
  indexes := Told.ofTexts posedTable.indexEntries

/-- The index of the other table is dropped, when the table named by a quote is brought in line. -/
theorem considers_iff_quote : quoteTable.name ≠ posedTable.name ∧
    ∃ w, keptWork toldOfPosed quoteTable = .ok w ∧ w.stop = none ∧
      ∃ e ∈ posedTable.indexEntries, "DROP INDEX IF EXISTS " ++ quote e.1 ∈ w.statements := by
  have hposed : posedTable.IsBuilt := Table.isBuilt_ofColumns (by decide) (by decide) _
  have hquote : quoteTable.IsBuilt := Table.isBuilt_ofColumns (by decide) (by decide) _
  obtain ⟨w, own, hw, hstop, -, hown, hstatements⟩ := (considers_iff quoteTable).2 toldOfPosed
    posedTable.indexEntries rfl (List.nodup_singleton _) (fun e he => ⟨posedTable, hposed, he⟩)
    hquote List.nodup_nil
  have hseems : Table.SeemsOf quoteTable.name "u" " ON \"\" (" :=
    Or.inr (Or.inl ⟨1, rfl, List.infix_refl _⟩)
  obtain ⟨e, he, htext⟩ : ∃ e ∈ posedTable.indexEntries,
      e.2 = Table.indexText ("u", " ON \"\" (") := ⟨_, List.mem_singleton_self _, rfl⟩
  have hmem := (hown e).2 ⟨he, "u", _, htext, Or.inr hseems⟩
  refine ⟨by decide, w, hw, hstop, e, he, ?_⟩
  rw [hstatements]
  refine List.mem_append_left _ (List.mem_map.2 ⟨e, List.mem_filter.2 ⟨hmem, ?_⟩, rfl⟩)
  exact decide_eq_true List.not_mem_nil

end Migration

/-! ### Fronts of whole characters -/

namespace Text

lemma utf8_ofList (cs : List Char) :
    utf8 (String.ofList cs) = cs.flatMap String.utf8EncodeChar := by
  simp [utf8, List.utf8Encode]

lemma length_flatMap_encode (cs : List Char) :
    (cs.flatMap String.utf8EncodeChar).length = utf8Size cs := by
  induction cs with
  | nil => rfl
  | cons c cs ih =>
    rw [List.flatMap_cons, List.length_append, ih, String.length_utf8EncodeChar, utf8Size]

lemma length_utf8 (s : String) : (utf8 s).length = utf8Size s.toList := by
  rw [← length_flatMap_encode, ← utf8_ofList, String.ofList_toList]

/-- What is left of a row of characters that is cut in the middle of its first one: bytes that are
no character yet. -/
def IsCut (cut : List UInt8) : List Char → Prop
  | [] => cut = []
  | c :: _ => cut <+: String.utf8EncodeChar c ∧ cut.length < c.utf8Size

/-- **The longest front of a text** in whole characters that fits in a number of bytes. -/
structure LongestFront (budget : Nat) (text front : String) : Prop where
  begins : front.toList <+: text.toList
  fits : (utf8 front).length ≤ budget
  longest : ∀ other : String, other.toList <+: text.toList → (utf8 other).length ≤ budget →
    other.toList <+: front.toList
  /-- The bytes that fit are those of the front, and what the cut leaves of the next character. -/
  cut : ∃ behind cut, text.toList = front.toList ++ behind ∧
    (utf8 text).take budget = utf8 front ++ cut ∧ IsCut cut behind

lemma utf8Size_takeBytes_le (budget : Nat) (cs : List Char) :
    utf8Size (takeBytes budget cs) ≤ budget := by
  induction cs generalizing budget with
  | nil => exact Nat.zero_le _
  | cons c cs ih =>
    rw [takeBytes]
    split
    · rename_i hfits
      have hrest := ih (budget - c.utf8Size)
      rw [utf8Size]
      omega
    · exact Nat.zero_le _

lemma takeBytes_longest {budget : Nat} {cs other : List Char} (h : other <+: cs)
    (hfits : utf8Size other ≤ budget) : other <+: takeBytes budget cs := by
  induction cs generalizing budget other with
  | nil => exact h
  | cons c cs ih =>
    cases other with
    | nil => exact List.nil_prefix
    | cons d other =>
      obtain ⟨rfl, hother⟩ := List.cons_prefix_cons.1 h
      rw [utf8Size] at hfits
      rw [takeBytes, if_pos (by omega)]
      exact List.cons_prefix_cons.2 ⟨rfl, ih hother (by omega)⟩

lemma takeBytes_cut (budget : Nat) (cs : List Char) :
    ∃ behind cut, cs = takeBytes budget cs ++ behind ∧
      (cs.flatMap String.utf8EncodeChar).take budget =
        (takeBytes budget cs).flatMap String.utf8EncodeChar ++ cut ∧ IsCut cut behind := by
  induction cs generalizing budget with
  | nil => exact ⟨[], [], rfl, List.take_nil, rfl⟩
  | cons c cs ih =>
    rw [takeBytes, List.flatMap_cons, List.take_append, String.length_utf8EncodeChar]
    split
    · rename_i hfits
      obtain ⟨behind, cut, hbehind, hbytes, hcut⟩ := ih (budget - c.utf8Size)
      refine ⟨behind, cut, congrArg (c :: ·) hbehind, ?_, hcut⟩
      rw [List.take_of_length_le (by rwa [String.length_utf8EncodeChar]), hbytes,
        List.flatMap_cons, List.append_assoc]
    · rename_i hlong
      -- the cut falls into the first character, so nothing of what follows is taken
      refine ⟨c :: cs, (String.utf8EncodeChar c).take budget, rfl, ?_, List.take_prefix _ _, ?_⟩
      · rw [Nat.sub_eq_zero_of_le (by omega), List.take_zero, List.append_nil, List.flatMap_nil,
          List.nil_append]
      · rw [List.length_take]
        omega

theorem longestFront_takeBytes (budget : Nat) (text : String) :
    LongestFront budget text (String.ofList (takeBytes budget text.toList)) where
  begins := by
    rw [String.toList_ofList]
    exact Table.takeBytes_prefix budget text.toList
  fits := by
    rw [length_utf8, String.toList_ofList]
    exact utf8Size_takeBytes_le budget text.toList
  longest := by
    intro other hother hfits
    rw [length_utf8] at hfits
    rw [String.toList_ofList]
    exact takeBytes_longest hother hfits
  cut := by
    obtain ⟨behind, cut, hbehind, hbytes, hcut⟩ := takeBytes_cut budget text.toList
    refine ⟨behind, cut, ?_, ?_, hcut⟩
    · rw [String.toList_ofList]
      exact hbehind
    · rw [utf8_ofList, ← hbytes, ← utf8_ofList, String.ofList_toList]

end Text

/-! ### Digests -/

namespace Digest.Sha256

lemma length_digest (state : Sha256) : state.digest.length = 32 := by
  rw [digest, List.length_flatMap]
  simp only [length_bytesOf, List.map_const', List.sum_replicate_nat]
  rfl

end Digest.Sha256

namespace Index

variable {start table table' : String} {columns columns' : List String}

lemma length_digest (table : String) (columns : List String) :
    (digest table columns).length = 8 := by
  have hdigits (bytes : List UInt8) :
      (bytes.flatMap fun b => Text.hexDigits 2 b.toNat).length = 2 * bytes.length := by
    rw [List.length_flatMap]
    simp only [Text.length_hexDigits, List.map_const', List.sum_replicate_nat]
    exact Nat.mul_comm _ _
  rw [digest, String.length_ofList, List.length_take, hdigits, Digest.Sha256.length_digest]
  rfl

/-- Digits are characters of one byte each. -/
lemma length_utf8_digest (table : String) (columns : List String) :
    (Text.utf8 (digest table columns)).length = 8 := by
  have hone : ∀ c ∈ (digest table columns).toList, c.utf8Size = 1 := by
    intro c hc
    obtain ⟨d, hd, rfl⟩ := Table.exists_of_mem_digest hc
    interval_cases d <;> rfl
  have hsize {cs : List Char} (h : ∀ c ∈ cs, c.utf8Size = 1) : Text.utf8Size cs = cs.length := by
    induction cs with
    | nil => rfl
    | cons c cs ih =>
      obtain ⟨hc, hcs⟩ := List.forall_mem_cons.1 h
      rw [Text.utf8Size, hc, ih hcs, List.length_cons, Nat.add_comm]
  rw [Text.length_utf8, hsize hone, String.length_toList, length_digest]

/-- **What a digest is taken of tells the names**, if none of them has a null character. -/
theorem digestInput_inj (ht : '\x00' ∉ table.toList) (hc : ∀ c ∈ columns, '\x00' ∉ c.toList)
    (ht' : '\x00' ∉ table'.toList) (hc' : ∀ c ∈ columns', '\x00' ∉ c.toList)
    (h : digestInput table columns = digestInput table' columns') :
    table = table' ∧ columns = columns' := by
  have hsplit {t : String} {cs : List String} (ht : '\x00' ∉ t.toList)
      (hcs : ∀ c ∈ cs, '\x00' ∉ c.toList) :
      (digestInput t cs).toList.splitOn '\x00' = (t :: cs).map String.toList := by
    rw [digestInput, String.toList_intercalate]
    refine List.splitOn_intercalate '\x00' ?_ (List.cons_ne_nil _ _)
    exact List.forall_mem_map.2 (List.forall_mem_cons.2 ⟨ht, hcs⟩)
  have hmap := hsplit ht hc
  rw [h, hsplit ht' hc'] at hmap
  exact List.cons_eq_cons.1 ((List.map_injective_iff.2 fun _ _ => String.toList_inj.1) hmap.symm)

/-- The name of an index as its two parts, of which the first is the one that is cut. -/
lemma exists_name_eq (start table : String) (columns : List String) : ∃ front,
    name start table columns = front ++ "_" ++ digest table columns ∧
      Text.LongestFront 54 (readable start table columns) front := by
  refine ⟨_, rfl, ?_⟩
  have hbudget : maxBytes - (digest table columns).length - 1 = 54 := by rw [length_digest]; rfl
  rw [hbudget]
  exact Text.longestFront_takeBytes 54 _

lemma length_utf8_name_le (start table : String) (columns : List String) :
    (Text.utf8 (name start table columns)).length ≤ 63 := by
  obtain ⟨front, hname, hfront⟩ := exists_name_eq start table columns
  have hline : (Text.utf8 "_").length = 1 := rfl
  have hfits := hfront.fits
  rw [hname, Text.utf8_append, Text.utf8_append, List.length_append, List.length_append, hline,
    length_utf8_digest]
  omega

/-- Indexes with the same name have the same digest. -/
lemma digest_eq_of_name_eq (h : name start table columns = name start table' columns') :
    digest table columns = digest table' columns' := by
  obtain ⟨front, hname, -⟩ := exists_name_eq start table columns
  obtain ⟨front', hname', -⟩ := exists_name_eq start table' columns'
  rw [hname, hname', ← String.toList_inj] at h
  simp only [String.toList_append] at h
  refine String.toList_inj.1 (List.append_inj_right' h ?_)
  rw [String.length_toList, String.length_toList, length_digest, length_digest]

end Index

/-! ### Rows of indexes -/

namespace Migration

open Index (digest digestInput)
open Table (indexedNames indexText)

/-- **Tables whose indexes are told apart**: tables have different names, the columns of a table
have, and no two digests of different names are the same by accident. -/
structure Identified (tables : List Table) : Prop where
  built : ∀ t ∈ tables, t.IsBuilt
  names : (tables.map Table.name).Nodup
  columnNames : ∀ t ∈ tables, (t.columns.map Column.columnName).Nodup
  nulls : ∀ t ∈ tables, '\x00' ∉ t.name.toList ∧ ∀ c ∈ t.columns, '\x00' ∉ c.columnName.toList
  digests : ∀ t ∈ tables, ∀ u ∈ tables, ∀ c ∈ indexedNames t.columns, ∀ d ∈ indexedNames u.columns,
    digest t.name [c] = digest u.name [d] → digestInput t.name [c] = digestInput u.name [d]

namespace Identified

variable {tables : List Table}

lemma name_inj (h : Identified tables) {t u : Table} (ht : t ∈ tables) (hu : u ∈ tables)
    {c d : String} (hc : c ∈ indexedNames t.columns) (hd : d ∈ indexedNames u.columns)
    (he : Index.name Index.defaultStart t.name [c] = Index.name Index.defaultStart u.name [d]) :
    t.name = u.name ∧ c = d := by
  have hplain {t : Table} (ht : t ∈ tables) {c : String} (hc : c ∈ indexedNames t.columns) :
      ∀ c' ∈ [c], '\x00' ∉ c'.toList := by
    obtain ⟨column, hcolumn, rfl⟩ := List.mem_map.1 hc
    exact List.forall_mem_singleton.2
      ((h.nulls t ht).2 column (List.mem_of_mem_filter hcolumn))
  have hinput := h.digests t ht u hu c hc d hd (Index.digest_eq_of_name_eq he)
  obtain ⟨hname, hcolumns⟩ := Index.digestInput_inj (h.nulls t ht).1 (hplain ht hc)
    (h.nulls u hu).1 (hplain hu hd) hinput
  exact ⟨hname, List.singleton_inj.1 hcolumns⟩

lemma declarable (h : Identified tables) : Table.Declarable tables where
  built := h.built
  names := h.names
  indexes := by
    have hentries (t : Table) : t.indexEntries.map Prod.fst =
        (indexedNames t.columns).map fun c => Index.name Index.defaultStart t.name [c] := by
      rw [Table.indexEntries, List.map_map]
      rfl
    rw [List.map_flatMap, List.nodup_flatMap]
    refine ⟨fun t ht => ?_, ?_⟩
    · rw [hentries]
      refine List.Nodup.map_on (fun c hc d hd he => (h.name_inj ht ht hc hd he).2) ?_
      exact (h.columnNames t ht).sublist (List.filter_sublist.map _)
    · refine (List.pairwise_map.1 h.names).imp_of_mem fun {t u} ht hu hne => ?_
      change List.Disjoint (t.indexEntries.map Prod.fst) (u.indexEntries.map Prod.fst)
      rw [List.disjoint_left, hentries, hentries]
      intro n hn hn'
      obtain ⟨c, hc, rfl⟩ := List.mem_map.1 hn
      obtain ⟨d, hd, he⟩ := List.mem_map.1 hn'
      exact hne (h.name_inj ht hu hc hd he.symm).1

end Identified

/-- The rows of a schema, cell by cell. -/
lemma declaredRows_eq_map (hash : Json) (tables : List Table) :
    Row.ofHash hash :: tables.flatMap declaredRows =
      (declaredCells hash tables).map fun c => ⟨.text c.1, .text c.2.1, c.2.2⟩ := by
  rw [declaredCells, List.map_cons, List.map_flatMap]
  congr 1
  refine List.flatMap_congr fun t _ => ?_
  rw [declaredRows, List.map_cons, List.map_map]
  rfl

/-- **Names of indexes fit and identify their columns.**  A name has at most 63 bytes: the longest
front of its readable part that leaves room for the digest, a line, and the digest.  What a digest
is taken of is the same for the same names only, so the rows of a schema, among them one for each
index, have different keys. -/
theorem names_identify_indexes :
    (∀ start table columns, (Text.utf8 (Index.name start table columns)).length ≤ 63 ∧
      (digest table columns).length = 8 ∧
      ∃ front, Index.name start table columns = front ++ "_" ++ digest table columns ∧
        Text.LongestFront 54 (start ++ "_" ++ table ++ "_" ++ "_".intercalate columns) front) ∧
    (∀ table columns table' columns',
      '\x00' ∉ table.toList → (∀ c ∈ columns, '\x00' ∉ c.toList) →
      '\x00' ∉ table'.toList → (∀ c ∈ columns', '\x00' ∉ c.toList) →
        (table, columns) ≠ (table', columns') →
          digestInput table columns ≠ digestInput table' columns') ∧
    ∀ hash tables, Identified tables → ∃ rows, metadataRows hash tables = .ok rows ∧
      (rows.map fun row => (row.kind, row.name)).Nodup ∧
      ∀ t ∈ tables, ∀ c ∈ indexedNames t.columns,
        Row.ofIndex (Index.name Index.defaultStart t.name [c]) (indexText (t.name, c)) ∈ rows := by
  refine ⟨fun start table columns => ?_, ?_, fun hash tables h => ?_⟩
  · exact ⟨Index.length_utf8_name_le start table columns, Index.length_digest table columns,
      Index.exists_name_eq start table columns⟩
  · intro table columns table' columns' ht hc ht' hc' hne h
    exact hne (Prod.mk.injEq .. ▸ Index.digestInput_inj ht hc ht' hc' h)
  · refine ⟨_, metadataRows_eq h.built hash, ?_, fun t ht c hc => ?_⟩
    · rw [declaredRows_eq_map, List.map_map]
      have hkeys := nodup_keys h.declarable hash
      have htexts : Function.Injective
          fun k : String × String => (Json.text k.1, Json.text k.2) := by
        rintro ⟨a, b⟩ ⟨c, d⟩ he
        simpa using he
      have hmap := hkeys.map htexts
      rwa [List.map_map] at hmap
    · have hentry : (Index.name Index.defaultStart t.name [c], indexText (t.name, c)) ∈
          t.indexEntries := List.mem_map_of_mem hc
      have hrow : Row.ofIndex _ _ ∈ declaredRows t :=
        List.mem_cons_of_mem _ (List.mem_map.2 ⟨_, hentry, rfl⟩)
      exact List.mem_cons_of_mem _ (List.mem_flatMap.2 ⟨t, ht, hrow⟩)

/-- Two tables whose indexes look the same: the readable parts of their names are equal. -/
def lookalikes : List Table :=
  [Table.ofColumns "a_b" "A" [soleColumn "c" .long true],
    Table.ofColumns "a" "B" [soleColumn "b_c" .long true]]

lemma identified_lookalikes : Identified lookalikes where
  built := by
    refine List.forall_mem_cons.2 ⟨?_, List.forall_mem_singleton.2 ?_⟩
    · exact Table.isBuilt_ofColumns (by decide) (by decide) _
    · exact Table.isBuilt_ofColumns (by decide) (by decide) _
  names := by decide
  columnNames := by decide
  nulls := by decide
  digests := by decide +kernel

/-- With names that have a line where the names of the others are joined. -/
theorem names_identify_indexes_lookalikes :
    ('\x00' ∉ "a_b".toList ∧ (∀ c ∈ ["c"], '\x00' ∉ c.toList) ∧
      '\x00' ∉ "a".toList ∧ (∀ c ∈ ["b_c"], '\x00' ∉ c.toList) ∧
      ("a_b", ["c"]) ≠ ("a", ["b_c"]) ∧ digestInput "a_b" ["c"] ≠ digestInput "a" ["b_c"]) ∧
    Identified lookalikes ∧ ∃ rows, metadataRows .null lookalikes = .ok rows ∧
      (rows.map fun row => (row.kind, row.name)).Nodup ∧
      ∀ t ∈ lookalikes, ∀ c ∈ indexedNames t.columns,
        Row.ofIndex (Index.name Index.defaultStart t.name [c]) (indexText (t.name, c)) ∈ rows :=
  ⟨⟨by decide, by decide, by decide, by decide, by decide,
      names_identify_indexes.2.1 _ _ _ _ (by decide) (by decide) (by decide) (by decide)
        (by decide)⟩,
    identified_lookalikes, names_identify_indexes.2.2 _ _ identified_lookalikes⟩

end Migration

end PgSchema
