import Mathlib.Data.Nat.Notation
import SyncGDrive.Program.Basic

/-! Answers of the Drive service, as the client reads them: a status, the `Retry-After` header
and a JSON body.
-/

namespace SyncGDrive

-----------------------------------------------------------------------------------------
-- Headers
-----------------------------------------------------------------------------------------

/-- `str::parse::<u64>`: decimal digits that fit, after a plus sign or not. -/
def parseU64 (text : List Char) : Option ℕ :=
  let digits := if text.head? = some '+' then text.tail else text
  let value := digits.foldl (fun value digit => 10 * value + (digit.toNat - '0'.toNat)) 0
  if digits ≠ [] ∧ digits.all Char.isDigit ∧ value < UInt64.size then
    some value
  else
    none

/-- `HeaderValue::to_str`: only visible ASCII characters and tabs make a text. -/
def headerText (value : List UInt8) : Option (List Char) :=
  if value.all (fun byte => (32 ≤ byte ∧ byte < 127) ∨ byte = 9) then
    some (value.map (fun byte => Char.ofNat byte.toNat))
  else none

/-- `parse_retry_after`, from the bytes of the header, if there is one. -/
def parseRetryAfter (header : Option (List UInt8)) : ℕ :=
  ((header.bind headerText).bind parseU64).getD 60

end SyncGDrive
