import PbrTelemetry.Counter
import PbrTelemetry.Json.Printer
import PbrTelemetry.Timestamp

/-!
# Printed records

A record is one line: as words with the time in front, or as a JSON object with the fields in their
order.
-/

namespace PbrTelemetry.PbrStat

def timestamp (stat : PbrStat) : Timestamp := ⟨stat.seconds.toNat, stat.nanoseconds.toNat⟩

/-- The line of a record.  A time that cannot be written is a dash. -/
def line (stat : PbrStat) : String :=
  stat.timestamp.render?.getD "-" ++ " policy=" ++ stat.policyName ++ " rule=" ++ stat.ruleName
    ++ " bytes=" ++ Text.decimal stat.byteCount.toNat
    ++ " packets=" ++ Text.decimal stat.packetCount.toNat
    ++ " action=" ++ stat.action ++ " path_group=" ++ stat.pathGroup

def json (stat : PbrStat) : Json :=
  .object [
    ("policy_name", .string stat.policyName),
    ("rule_name", .string stat.ruleName),
    ("byte_count", .integer stat.byteCount.toNat),
    ("packet_count", .integer stat.packetCount.toNat),
    ("collection_timestamp_seconds", .integer stat.seconds.toNat),
    ("collection_timestamp_nanoseconds", .integer stat.nanoseconds.toNat),
    ("path_grp_name", .string stat.pathGroup),
    ("policy_action_type", .string stat.action)]

def lineAs (asJson : Bool) (stat : PbrStat) : String :=
  if asJson then stat.json.render else stat.line

end PbrTelemetry.PbrStat
