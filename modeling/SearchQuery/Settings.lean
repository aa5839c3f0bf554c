import SearchQuery.Decimal.Reading
import SearchQuery.Text.Letter

/-!
# Settings

How the engine is reached, and how many matches it may collect.
-/

namespace SearchQuery

structure Settings where
  host : String := "127.0.0.1"
  port : UInt16 := 9312
  username : Option String := none
  password : Option String := none
  transport : String := "http"
  timeoutSeconds : UInt64 := 5
  persistent : Bool := false
  maxMatches : Option UInt64 := some 1000
  deriving DecidableEq, Repr, Inhabited

namespace Settings

/-- The settings that environment variables give.  A number that cannot be read counts as missing,
an empty user name or password as none, and no matches at all as no limit on them. -/
def ofEnvironment (lookup : String → Option String) : Settings :=
  let defaults : Settings := {}
  let number := fun name bound => (lookup name).bind (Decimal.readNatural? bound ∘ Text.trim)
  let filled := fun name => (lookup name).filter fun s => !s.isEmpty
  { host := (lookup "MANTICORE_HOST").getD defaults.host
    port := ((number "MANTICORE_PORT" UInt16.size).map UInt16.ofNat).getD defaults.port
    username := filled "MANTICORE_USERNAME"
    password := filled "MANTICORE_PASSWORD"
    transport := (lookup "MANTICORE_TRANSPORT").getD defaults.transport
    timeoutSeconds :=
      ((number "MANTICORE_TIMEOUT" UInt64.size).map UInt64.ofNat).getD defaults.timeoutSeconds
    persistent := ((lookup "MANTICORE_PERSISTENT").map fun s =>
      ["1", "true", "yes"].contains (Text.asciiLowercase (Text.trim s))).getD defaults.persistent
    maxMatches := match number "MANTICORE_MAX_MATCHES" UInt64.size with
      | some 0 => none
      | some n => some (UInt64.ofNat n)
      | none => defaults.maxMatches }

end Settings

end SearchQuery
