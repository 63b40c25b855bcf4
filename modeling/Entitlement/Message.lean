import Entitlement.Json.Record
import Entitlement.Json.Writer
import Entitlement.Snapshot
import Entitlement.Time

/-!
The messages that pass between a client and the authority: the reply to a check, and the three kinds
of report. On the wire all limits are signed, and zero or less means that there is none.
-/

namespace Entitlement

open Json (Member Fault Read)

/-! ### Reply to a check -/

namespace Quota

def fields : List (Member Quota) :=
  [.of "limit" true Json.readInt64 fun v q => { q with limit := v },
   .of "used" true Json.readInt64 fun v q => { q with used := v },
   .of "remaining" true Json.readInt64 fun v q => { q with remaining := v },
   .of "reset_at" true Json.readInt64 fun v q => { q with resetAt := v }]

def unread : Quota := ⟨0, 0, 0, 0⟩

def ofJson (text : Bytes) : Except Fault Quota := Json.parseRecord fields unread text

def toJson (q : Quota) : String :=
  Json.writeRecord [("limit", .int64 q.limit), ("used", .int64 q.used),
    ("remaining", .int64 q.remaining), ("reset_at", .int64 q.resetAt)]

end Quota

structure CheckReply where
  featureId : String := ""
  enabled : Bool := false
  reason : Option String := none
  quota : Option Quota := none
  maxCapacity : Option Int64 := none
  maxRate : Option Float := none
  maxConcurrency : Option Int64 := none
  cacheTtl : Option Int64 := none
  deriving Inhabited

/-- A snapshot, and how long the authority suggests to keep it. -/
structure Grant where
  snapshot : Snapshot
  cacheTtl : Option Duration
  deriving Inhabited

namespace CheckReply

def fields : List (Member CheckReply) :=
  [.of "feature_id" false Json.readText fun v r => { r with featureId := v },
   .of "enabled" true Json.readBool fun v r => { r with enabled := v },
   .of "reason" false (Json.readOptional Json.readText) fun v r => { r with reason := v },
   .of "quota_info" false (Json.readOptional (Json.readRecord Quota.fields Quota.unread))
     fun v r => { r with quota := v },
   .of "max_capacity" false (Json.readOptional Json.readInt64) fun v r => { r with maxCapacity := v },
   .of "max_tps" false (Json.readOptional Json.readFloat) fun v r => { r with maxRate := v },
   .of "max_concurrency" false (Json.readOptional Json.readInt64)
     fun v r => { r with maxConcurrency := v },
   .of "cache_ttl" false (Json.readOptional Json.readInt64) fun v r => { r with cacheTtl := v }]

def ofJson (text : Bytes) : Except Fault CheckReply := Json.parseRecord fields {} text

def suggestedTtl (r : CheckReply) : Option Duration :=
  (r.cacheTtl.filter (0 < ·)).map fun s => .ofSeconds (Saturating.toUInt64 s)

/-- A limit on the wire, if it is one. -/
def limit (v : Option Int64) : Option UInt64 := (v.filter (0 < ·)).map Saturating.toUInt64

def toSnapshot (r : CheckReply) : Snapshot where
  admitted := r.enabled
  reason := r.reason.filter (!·.isEmpty)
  quota := r.quota
  maxCapacity := limit r.maxCapacity
  maxRate := r.maxRate.filter (0 < ·)
  maxConcurrency := limit r.maxConcurrency

def toGrant (r : CheckReply) : Grant := ⟨r.toSnapshot, r.suggestedTtl⟩

end CheckReply

/-! ### Reports -/

structure UsageReport where
  instanceId : String
  featureId : String
  count : UInt64
  timestamp : Int64
  deriving DecidableEq, Repr, Inhabited

namespace UsageReport

def fields : List (Member UsageReport) :=
  [.of "instance_id" true Json.readText fun v r => { r with instanceId := v },
   .of "feature_id" true Json.readText fun v r => { r with featureId := v },
   .of "count" true Json.readUInt64 fun v r => { r with count := v },
   .of "timestamp" true Json.readInt64 fun v r => { r with timestamp := v }]

def ofJson (text : Bytes) : Except Fault UsageReport := Json.parseRecord fields ⟨"", "", 0, 0⟩ text

def toJson (r : UsageReport) : String :=
  Json.writeRecord [("instance_id", .text r.instanceId), ("feature_id", .text r.featureId),
    ("count", .uint64 r.count), ("timestamp", .int64 r.timestamp)]

end UsageReport

/-- An instance announces itself. -/
structure Registration where
  productId : String
  version : String
  publicKey : String
  deriving DecidableEq, Repr, Inhabited

namespace Registration

def fields : List (Member Registration) :=
  [.of "product_id" true Json.readText fun v r => { r with productId := v },
   .of "version" true Json.readText fun v r => { r with version := v },
   .of "public_key" true Json.readText fun v r => { r with publicKey := v }]

def ofJson (text : Bytes) : Except Fault Registration := Json.parseRecord fields ⟨"", "", ""⟩ text

def toJson (r : Registration) : String :=
  Json.writeRecord [("product_id", .text r.productId), ("version", .text r.version),
    ("public_key", .text r.publicKey)]

end Registration

/-- A sign of life. -/
structure Heartbeat where
  version : String
  deriving DecidableEq, Repr, Inhabited

namespace Heartbeat

def fields : List (Member Heartbeat) :=
  [.of "version" true Json.readText fun v r => { r with version := v }]

def ofJson (text : Bytes) : Except Fault Heartbeat := Json.parseRecord fields ⟨""⟩ text

def toJson (r : Heartbeat) : String := Json.writeRecord [("version", .text r.version)]

end Heartbeat

end Entitlement
