import PgSchema.Digest.Sha256
import PgSchema.Number.Rounding
import PgSchema.Text.Utf8

/-!
Numbers of advisory locks: the first eight bytes of the hash of a key, read as a signed number.
-/

namespace PgSchema.Lock

open Digest (Sha256)
open Number (twoTo)

/-- The number whose bytes are given, most significant first. -/
def ofBytes (bytes : List UInt8) : Nat := bytes.foldl (fun n b => 256 * n + b.toNat) 0

/-- The number of the lock that goes with a key. -/
def id (key : String) : Int :=
  let n := ofBytes ((Sha256.empty.absorb (Text.utf8 key)).digest.take 8)
  if n < twoTo 63 then n else (n : Int) - twoTo 64

/-- What the keys of migration locks begin with. -/
def migrationKey (metadataTable : String) : String := "schema:migrate:" ++ metadataTable

end PgSchema.Lock
