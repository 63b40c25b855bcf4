import Entitlement.Message
import Entitlement.Proofs.Json.Record

/-!
What an instance sends arrives as it was sent: every report, registration, heartbeat and quota reads back from its JSON
text as itself, so no two of them are written alike (`messages_arrive`).
-/

namespace Entitlement

open Json (Entry isBlank)

/-! ### The members of each message -/

def UsageReport.entries (r : UsageReport) : List (Entry UsageReport) :=
  [.text "instance_id" (fun v r => { r with instanceId := v }) r.instanceId,
   .text "feature_id" (fun v r => { r with featureId := v }) r.featureId,
   .uint64 "count" (fun v r => { r with count := v }) r.count,
   .int64 "timestamp" (fun v r => { r with timestamp := v }) r.timestamp]

def Registration.entries (r : Registration) : List (Entry Registration) :=
  [.text "product_id" (fun v r => { r with productId := v }) r.productId,
   .text "version" (fun v r => { r with version := v }) r.version,
   .text "public_key" (fun v r => { r with publicKey := v }) r.publicKey]

def Heartbeat.entries (r : Heartbeat) : List (Entry Heartbeat) :=
  [.text "version" (fun v r => { r with version := v }) r.version]

def Quota.entries (q : Quota) : List (Entry Quota) :=
  [.int64 "limit" (fun v q => { q with limit := v }) q.limit,
   .int64 "used" (fun v q => { q with used := v }) q.used,
   .int64 "remaining" (fun v q => { q with remaining := v }) q.remaining,
   .int64 "reset_at" (fun v q => { q with resetAt := v }) q.resetAt]

section Blanks

variable {before after : Bytes} (blankBefore : ∀ b ∈ before, isBlank b = true) (blankAfter : ∀ b ∈ after, isBlank b = true)
include blankBefore blankAfter

theorem UsageReport.ofJson_toJson (r : UsageReport) :
    UsageReport.ofJson (before ++ utf8 r.toJson ++ after) = .ok r := by
  have distinct : (r.entries.map Entry.name).Nodup := by
    show ["instance_id", "feature_id", "count", "timestamp"].Nodup
    decide
  exact Json.parseRecord_written distinct ⟨"", "", 0, 0⟩ blankBefore blankAfter

theorem Registration.ofJson_toJson (r : Registration) :
    Registration.ofJson (before ++ utf8 r.toJson ++ after) = .ok r := by
  have distinct : (r.entries.map Entry.name).Nodup := by
    show ["product_id", "version", "public_key"].Nodup
    decide
  exact Json.parseRecord_written distinct ⟨"", "", ""⟩ blankBefore blankAfter

theorem Heartbeat.ofJson_toJson (r : Heartbeat) : Heartbeat.ofJson (before ++ utf8 r.toJson ++ after) = .ok r := by
  have distinct : (r.entries.map Entry.name).Nodup := by
    show ["version"].Nodup
    decide
  exact Json.parseRecord_written distinct ⟨""⟩ blankBefore blankAfter

theorem Quota.ofJson_toJson (q : Quota) : Quota.ofJson (before ++ utf8 q.toJson ++ after) = .ok q := by
  have distinct : (q.entries.map Entry.name).Nodup := by
    show ["limit", "used", "remaining", "reset_at"].Nodup
    decide
  exact Json.parseRecord_written distinct Quota.unread blankBefore blankAfter

end Blanks

/-- A text read back as what it was written for was written for nothing else. -/
theorem injective_of_readsBack {α : Type} {write : α → String} {read : Bytes → Except Json.Fault α}
    (back : ∀ a, read ([] ++ utf8 (write a) ++ []) = .ok a) : Function.Injective write := by
  intro a a' same
  exact Except.ok.inj ((back a).symm.trans ((congrArg (fun text => read ([] ++ utf8 text ++ [])) same).trans (back a')))

/-- Whatever a message holds, it is read back from its text as it was, also with blanks around; different messages
have different texts. -/
theorem messages_arrive {before after : Bytes} (blankBefore : ∀ b ∈ before, isBlank b = true)
    (blankAfter : ∀ b ∈ after, isBlank b = true) :
    ((∀ r : UsageReport, UsageReport.ofJson (before ++ utf8 r.toJson ++ after) = .ok r) ∧
      (∀ r : Registration, Registration.ofJson (before ++ utf8 r.toJson ++ after) = .ok r) ∧
      (∀ r : Heartbeat, Heartbeat.ofJson (before ++ utf8 r.toJson ++ after) = .ok r) ∧
      (∀ q : Quota, Quota.ofJson (before ++ utf8 q.toJson ++ after) = .ok q)) ∧
    (Function.Injective UsageReport.toJson ∧ Function.Injective Registration.toJson ∧
      Function.Injective Heartbeat.toJson ∧ Function.Injective Quota.toJson) := by
  have none : ∀ b ∈ ([] : Bytes), isBlank b = true := fun b member => (List.not_mem_nil member).elim
  refine ⟨⟨UsageReport.ofJson_toJson blankBefore blankAfter, Registration.ofJson_toJson blankBefore blankAfter,
    Heartbeat.ofJson_toJson blankBefore blankAfter, Quota.ofJson_toJson blankBefore blankAfter⟩, ?_, ?_, ?_, ?_⟩
  · exact injective_of_readsBack (UsageReport.ofJson_toJson none none)
  · exact injective_of_readsBack (Registration.ofJson_toJson none none)
  · exact injective_of_readsBack (Heartbeat.ofJson_toJson none none)
  · exact injective_of_readsBack (Quota.ofJson_toJson none none)

/-- A quote, a control character and a supplementary character in its feature, and the largest count and the smallest
timestamp that there are. -/
theorem extremeReport_arrives :
    UsageReport.ofJson ([0x20, 0x0A] ++ utf8 (UsageReport.toJson ⟨"i", "\"\\\x01\x7f😀", UInt64.ofNat (UInt64.size - 1),
      Int64.minValue⟩) ++ [0x09]) = .ok ⟨"i", "\"\\\x01\x7f😀", UInt64.ofNat (UInt64.size - 1), Int64.minValue⟩ :=
  (messages_arrive (by decide +kernel) (by decide +kernel)).1.1 _

end Entitlement
