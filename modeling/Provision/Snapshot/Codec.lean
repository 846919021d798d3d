import Provision.Json.Codec
import Provision.Timestamp

/-!
# The leaves of a snapshot

A document of a snapshot holds numbers and strings, and a point in time as a string.
-/

namespace Provision

structure Snapshot.Codec extends Json.Codec where
  moment? : String → Option Timestamp
  momentText : Timestamp → String

def Snapshot.Codec.standard : Snapshot.Codec :=
  { Json.Codec.standard with moment? := Timestamp.read?, momentText := Timestamp.text }

end Provision
