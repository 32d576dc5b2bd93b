import Mathlib.Data.List.Basic
import PgSchema.Digest.Sha256

/-!
The hash of a whole message.

By its standard the hash is taken of a message that is there as a whole: the message and what ends
it are cut into blocks, and the chaining value is changed by one block after the other, with the
schedule of the words of each (`sha256`).  A hash that takes its message byte by byte holds, at any
time, the chaining value of the full blocks and the bytes behind them (`Reads`), and so it comes to
the same in the end (`digest_absorb_empty`).
-/

namespace PgSchema.Digest

/-! ### The hash by its standard -/

/-- The smaller of the two functions that mix the words of a schedule. -/
def sigma0 (x : UInt32) : UInt32 := rotate x 7 ^^^ rotate x 18 ^^^ (x >>> 3)

/-- The other one. -/
def sigma1 (x : UInt32) : UInt32 := rotate x 17 ^^^ rotate x 19 ^^^ (x >>> 10)

/-- **The schedule of a block**: its sixteen words, and then words that are each made of four before
them. -/
def schedule (block : List UInt8) (t : Nat) : UInt32 :=
  if t < 16 then (wordsOf block).getD t 0
  else sigma1 (schedule block (t - 2)) + schedule block (t - 7) +
    sigma0 (schedule block (t - 15)) + schedule block (t - 16)

/-- The chaining value after one more block: a round for each constant and its word of the
schedule, and the value that there was is added. -/
def chained (x : Words) (block : List UInt8) : Words :=
  x.add (roundConstants.zipIdx.foldl (fun y e => step y (e.1 + schedule block e.2)) x)

/-- The block of a number, among the bytes of a message. -/
def blockAt (bytes : List UInt8) (i : Nat) : List UInt8 := (bytes.drop (64 * i)).take 64

/-- A message with what ends it. -/
def padded (message : List UInt8) : List UInt8 := message ++ Sha256.padding message.length

/-- **The hash of a message.** -/
def sha256 (message : List UInt8) : List UInt8 :=
  let blocks := (List.range ((padded message).length / 64)).map (blockAt (padded message))
  (blocks.foldl chained initialWords).toList.flatMap fun w => Sha256.bytesOf 4 w.toNat

/-- Bytes in hexadecimal: two digits for each, in upper case. -/
def upperHex (bytes : List UInt8) : String :=
  String.ofList (bytes.flatMap fun b =>
    [(Nat.digitChar (b.toNat / 16)).toUpper, (Nat.digitChar (b.toNat % 16)).toUpper])

/-! ### Digits -/

lemma hexTable_getD : ∀ n < 16, hexTable.getD n '0' = (Nat.digitChar n).toUpper := by decide

lemma hex_eq (bytes : List UInt8) : hex bytes = upperHex bytes := by
  have hbyte : ∀ b : UInt8, hexByte b =
      [(Nat.digitChar (b.toNat / 16)).toUpper, (Nat.digitChar (b.toNat % 16)).toUpper] := by
    intro b
    have hlt := b.toNat_lt
    rw [hexByte, hexTable_getD _ (by omega), hexTable_getD _ (by omega)]
  rw [hex, upperHex, funext hbyte]

/-! ### Blocks -/

section Block

variable (block : List UInt8)

lemma length_wordsOf : (wordsOf block).length = block.length / 4 := by
  fun_induction wordsOf block with
  | case1 p q r s rest ih =>
    simp only [List.length_cons, ih]
    omega
  | case2 l hshort =>
    have hlt : l.length < 4 := by
      rcases l with _ | ⟨p, _ | ⟨q, _ | ⟨r, _ | ⟨s, rest⟩⟩⟩⟩
      case cons.cons.cons.cons => exact absurd rfl (hshort p q r s rest)
      all_goals simp
    exact (Nat.div_eq_of_lt hlt).symm

/-- Sixteen words of the schedule, from one of them on. -/
def window (t : Nat) : List UInt32 := (List.range' t 16).map (schedule block)

lemma getD_window (t : Nat) {j : Nat} (hj : j < 16) :
    (window block t).getD j 0 = schedule block (t + j) := by
  rw [window, List.getD_eq_getElem?_getD, List.getElem?_map, List.getElem?_range' hj]
  simp

/-- The words that are kept lead to the next one. -/
lemma nextWord_window (t : Nat) : nextWord (window block t) = schedule block (t + 16) := by
  have hnext : schedule block (t + 16) = sigma1 (schedule block (t + 14)) +
      schedule block (t + 9) + sigma0 (schedule block (t + 1)) + schedule block t := by
    rw [schedule, if_neg (by omega)]
    rfl
  rw [hnext, nextWord]
  simp only [getD_window block t (by decide : 0 < 16), getD_window block t (by decide : 1 < 16),
    getD_window block t (by decide : 9 < 16), getD_window block t (by decide : 14 < 16)]
  rw [sigma0, sigma1, Nat.add_zero]
  ac_rfl

lemma window_succ (t : Nat) :
    (window block t).drop 1 ++ [nextWord (window block t)] = window block (t + 1) := by
  have hlast : List.range' (t + 1) 16 = List.range' (t + 1) 15 ++ [t + 1 + 15] :=
    List.range'_1_concat
  rw [nextWord_window, window, window, List.range'_succ, List.map_cons, List.drop_one, List.tail_cons,
    hlast, List.map_append]
  simp [Nat.add_assoc]

/-- The rounds of a block take the words of its schedule, of which sixteen are kept at a time. -/
lemma rounds_window (ks : List UInt32) (t : Nat) (x : Words) :
    rounds ks (window block t) x =
      (ks.zipIdx t).foldl (fun y e => step y (e.1 + schedule block e.2)) x := by
  induction ks generalizing t x with
  | nil => rfl
  | cons k ks ih =>
    rw [rounds, window_succ, ih]
    rfl

lemma wordsOf_eq_window {block : List UInt8} (h : block.length = 64) :
    wordsOf block = window block 0 := by
  have hlength : (wordsOf block).length = 16 := by rw [length_wordsOf, h]
  refine List.ext_getElem (by simp [hlength, window]) fun j hj hj' => ?_
  have hj16 : j < 16 := by omega
  have hschedule : schedule block j = (wordsOf block).getD j 0 := by
    rw [schedule, if_pos hj16]
  simp only [window, List.getElem_map, List.getElem_range']
  simp [hschedule, hj]

/-- **A full block changes the chaining value** as the standard says. -/
theorem compress_eq {block : List UInt8} (h : block.length = 64) (x : Words) :
    compress x block = chained x block := by
  rw [compress, wordsOf_eq_window h, rounds_window]
  rfl

end Block

/-! ### Messages that are taken byte by byte -/

/-- The chaining value of the full blocks of a message. -/
def chainOf (message : List UInt8) : Words :=
  ((List.range (message.length / 64)).map (blockAt message)).foldl compress initialWords

lemma length_blockAt {message : List UInt8} {i : Nat} (h : i < message.length / 64) :
    (blockAt message i).length = 64 := by
  rw [blockAt, List.length_take, List.length_drop]
  omega

lemma blockAt_append {message : List UInt8} {i : Nat} (h : i < message.length / 64)
    (more : List UInt8) : blockAt (message ++ more) i = blockAt message i := by
  rw [blockAt, blockAt, List.drop_append_of_le_length (by omega),
    List.take_append_of_le_length (by rw [List.length_drop]; omega)]

/-- The full blocks that there were do not change behind more bytes. -/
lemma map_blockAt_append (message more : List UInt8) :
    (List.range (message.length / 64)).map (blockAt (message ++ more)) =
      (List.range (message.length / 64)).map (blockAt message) :=
  List.map_congr_left fun _ hi => blockAt_append (List.mem_range.1 hi) more

lemma chainOf_append_of_eq {message more : List UInt8}
    (h : (message ++ more).length / 64 = message.length / 64) :
    chainOf (message ++ more) = chainOf message := by
  rw [chainOf, h, map_blockAt_append, chainOf]

lemma chainOf_append_of_succ {message more : List UInt8}
    (h : (message ++ more).length / 64 = message.length / 64 + 1) : chainOf (message ++ more) =
      compress (chainOf message) (blockAt (message ++ more) (message.length / 64)) := by
  rw [chainOf, h, List.range_succ, List.map_append, map_blockAt_append, List.foldl_append, chainOf]
  rfl

namespace Sha256

/-- **What a hash holds of the message that it has taken**: the chaining value of the full blocks,
the bytes behind them, newest first, and the length. -/
structure Reads (state : Sha256) (message : List UInt8) : Prop where
  chain : state.chain = chainOf message
  pending : state.pending.reverse = message.drop (64 * (message.length / 64))
  length : state.length = message.length

variable {state : Sha256} {message : List UInt8}

lemma reads_empty : empty.Reads [] := ⟨rfl, rfl, rfl⟩

lemma Reads.length_pending (h : state.Reads message) :
    state.pending.length = message.length % 64 := by
  rw [← List.length_reverse, h.pending, List.length_drop]
  omega

/-- One more byte. -/
lemma Reads.push (h : state.Reads message) (byte : UInt8) :
    (state.push byte).Reads (message ++ [byte]) := by
  have hcount : (message ++ [byte]).length = message.length + 1 := by simp
  have hlength := h.length_pending
  have hbehind : (byte :: state.pending).reverse =
      (message ++ [byte]).drop (64 * (message.length / 64)) := by
    rw [List.reverse_cons, h.pending, List.drop_append_of_le_length (by omega)]
  unfold Sha256.push
  dsimp only
  split
  · -- the block is not full yet
    rename_i hopen
    rw [List.length_cons] at hopen
    have hsame : (message ++ [byte]).length / 64 = message.length / 64 := by omega
    refine ⟨?_, ?_, ?_⟩
    · rw [chainOf_append_of_eq hsame]
      exact h.chain
    · rw [hsame]
      exact hbehind
    · rw [hcount, h.length]
  · -- the byte fills the block
    rename_i hfull
    rw [List.length_cons] at hfull
    have hnext : (message ++ [byte]).length / 64 = message.length / 64 + 1 := by omega
    have hblock : (byte :: state.pending).reverse =
        blockAt (message ++ [byte]) (message.length / 64) := by
      rw [hbehind, blockAt, List.take_of_length_le]
      rw [List.length_drop]
      omega
    refine ⟨?_, ?_, ?_⟩
    · rw [chainOf_append_of_succ hnext, hblock, h.chain]
    · rw [hnext, List.drop_eq_nil_of_le (by omega)]
      rfl
    · rw [hcount, h.length]

/-- **Any further bytes**, by induction on them. -/
theorem Reads.absorb (h : state.Reads message) (bytes : List UInt8) :
    (state.absorb bytes).Reads (message ++ bytes) := by
  induction bytes generalizing state message with
  | nil => rwa [List.append_nil]
  | cons byte bytes ih =>
    rw [List.append_cons]
    exact ih (h.push byte)

lemma length_bytesOf (width n : Nat) : (bytesOf width n).length = width := by
  induction width generalizing n with
  | zero => rfl
  | succ width ih => rw [bytesOf, List.length_append, ih, List.length_singleton]

/-- What ends a message fills its last block. -/
lemma length_padded_mod (message : List UInt8) : (padded message).length % 64 = 0 := by
  simp only [padded, padding, List.length_append, List.length_cons, List.length_replicate,
    length_bytesOf]
  omega

end Sha256

lemma chainOf_eq_foldl_chained (message : List UInt8) : chainOf message =
    ((List.range (message.length / 64)).map (blockAt message)).foldl chained initialWords := by
  rw [chainOf]
  refine List.foldl_ext _ _ _ fun x block hblock => ?_
  obtain ⟨i, hi, rfl⟩ := List.mem_map.1 hblock
  exact compress_eq (length_blockAt (List.mem_range.1 hi)) x

/-- **A hash that takes a message byte by byte is the hash of the message.** -/
theorem Sha256.digest_absorb_empty (message : List UInt8) :
    (empty.absorb message).digest = sha256 message := by
  have hreads : (empty.absorb message).Reads message := by simpa using reads_empty.absorb message
  have hpadded := hreads.absorb (padding message.length)
  rw [digest, hreads.length, hpadded.chain, sha256, ← padded, chainOf_eq_foldl_chained]

example : hex (Sha256.empty.absorb [0x61, 0x62, 0x63]).digest =
    "BA7816BF8F01CFEA414140DE5DAE2223B00361A396177A9CB410FF61F20015AD" := by
  decide +kernel

end PgSchema.Digest
