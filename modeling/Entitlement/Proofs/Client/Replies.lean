import Entitlement.Proofs.Auth.Signing
import Entitlement.Proofs.Client.Verdict

/-!
Replies of the authority, and what they leave behind. A client whose query ends in an error learns nothing else from it:
nothing but the query changes (`Replied.settled`), and whoever waits for the query gets the error and nothing but the
error (`Replied.refuses`). Over HTTP that is the end of every query whose reply is no success or cannot be read
(`replies_mapped`).
-/

namespace Entitlement

namespace HttpAuthority

variable {a : HttpAuthority} {moment : SigningMoment}

/-- What a request that is posted comes to if the authority replies so. -/
def post (a : HttpAuthority) (moment : SigningMoment) (r : AuthorityRequest) (reply : HttpReply) :
    Except ClientError Unit :=
  a.message moment r >>= fun _ => reply.toUnit

theorem check_sent {key : CheckKey} {sent : HttpRequest} (sends : a.message moment (.check key) = .ok sent)
    (reply : HttpReply) : a.check moment key reply = reply.toGrant :=
  bind_of_ok sends _

theorem post_sent {r : AuthorityRequest} {sent : HttpRequest} (sends : a.message moment r = .ok sent)
    (reply : HttpReply) : a.post moment r reply = reply.toUnit :=
  bind_of_ok sends _

end HttpAuthority

namespace Client

variable {App : Type} {c : Client App}

/-- An error ends the query, and nothing else changes. -/
theorem queryReplied_error {q : QueryId} {key : CheckKey} (asked : c.queries.find? q = some ⟨key, .asked⟩)
    (e : ClientError) (now : Instant) :
    c.queryReplied q (.error e) now =
      { c with
        queries := c.queries.insert q ⟨key, .answered (.error e)⟩
        inFlight := landed c.inFlight key q } := by
  have ended : c.setStatus q (.answered (.error e)) =
      { c with queries := c.queries.insert q ⟨key, .answered (.error e)⟩ } := by
    rw [← setStatus_queries _ asked]
    rfl
  simp only [queryReplied, asked, Except.map, ended]
  unfold land landed
  split <;> rfl

/-- A call that hears an error keeps it, and nothing else changes. -/
theorem resume_error {i : CallId} {q : QueryId} {key : CheckKey} {purpose : Purpose} {e : ClientError}
    (waiting : c.phase? i = some (.waiting q key purpose)) (ended : c.outcome? q = some (.error e)) (m : Moment App) :
    c.resume i m = c.setPhase i (.finished (.error e)) := by
  rw [outcome?] at ended
  simp only [resume, waiting, ended, proceed]

end Client

namespace ClientHistory
open History
open HttpAuthority (exampleAuthority)

section

variable {App : Type} {h : ClientHistory App} {n k : Nat} {i : CallId} {q : QueryId} {key key' : CheckKey}
  {purpose : Purpose} {e : ClientError} {now : Instant}

/-- In the `n`th event the reply to the query `q` for `key` comes in, and comes to `reply`. -/
def Replied (h : ClientHistory App) (n : Nat) (q : QueryId) (key : CheckKey) (reply : Except ClientError Grant)
    (now : Instant) : Prop :=
  h.events[n]? = some (.queryReply q reply now) ∧ (h.state n).queries.find? q = some ⟨key, .asked⟩

/-- Where the call `i` is after `k` events if it waited for the query `q` when that failed with `e`, in the `n`th. -/
inductive Refused (h : ClientHistory App) (n k : Nat) (i : CallId) (q : QueryId) (key : CheckKey) (purpose : Purpose)
    (e : ClientError) : Prop
  | waits (waiting : (h.state k).phase? i = some (.waiting q key purpose))
      (ready : ∀ m, (h.state k).step (.resume i m) = (h.state k).setPhase i (.finished (.error e)))
  | told (finished : (h.state k).phase? i = some (.finished (.error e)))
  | taken {r : Nat} (after : n < r) (before : r < k) (happened : h.events[r]? = some (.take i))
      (had : (h.state r).phase? i = some (.finished (.error e))) (gone : (h.state k).phase? i = none)
  | cancelled {r : Nat} (after : n < r) (before : r < k) (happened : h.events[r]? = some (.cancel i))
      (gone : (h.state k).phase? i = none)

theorem Replied.settled (replied : h.Replied n q key (.error e) now) :
    h.state (n + 1) =
      { h.state n with
        queries := (h.state n).queries.insert q ⟨key, .answered (.error e)⟩
        inFlight := (h.state n).inFlight.erase key } := by
  obtain ⟨happened, asked⟩ := replied
  have flying : (h.state n).inFlight.find? key = some q := (h.sound n).pending q key .asked asked rfl
  rw [state_succ happened, Client.step, Client.queryReplied_error asked, Client.landed, if_pos flying]

theorem Replied.outcome (replied : h.Replied n q key (.error e) now) (later : n < k) :
    (h.state k).outcome? q = some (.error e) := by
  refine outcome_kept later ?_
  rw [replied.settled]
  exact Client.outcome?_some.mpr ⟨_, Table.find?_insert_self .., rfl⟩

theorem Refused.of_waiting (ended : (h.state k).outcome? q = some (.error e))
    (waiting : (h.state k).phase? i = some (.waiting q key purpose)) : h.Refused n k i q key purpose e :=
  .waits waiting fun m => Client.resume_error waiting ended m

theorem forgotten_succ (came : i < (h.state k).nextCall) (gone : (h.state k).phase? i = none) :
    (h.state (k + 1)).phase? i = none := by
  rcases h.next k with ⟨event, _, moved⟩ | ⟨_, same⟩
  · rw [moved]
    exact Client.phase?_forgotten came gone event
  · rw [same]
    exact gone

theorem Refused.step (refused : h.Refused n k i q key purpose e) (after : n < k)
    (ended : (h.state (k + 1)).outcome? q = some (.error e)) (came : i < (h.state k).nextCall) :
    h.Refused n (k + 1) i q key purpose e := by
  have next := Nat.lt_succ_self k
  cases refused with
  | waits waiting ready =>
    rcases waiting_succ waiting with ⟨m, _, happened, _⟩ | happened | still
    · refine .told ?_
      rw [state_succ happened, ready m]
      exact Client.phase?_setPhase waiting _
    · refine .cancelled after next happened ?_
      rw [state_succ happened]
      exact Client.phase?_erase i
    · exact .of_waiting ended still
  | told finished =>
    rcases h.next k with ⟨event, happened, moved⟩ | ⟨_, same⟩
    · rcases Client.phase?_finished came finished event with still | ⟨gone, rfl | rfl⟩
      · exact .told (moved ▸ still)
      · exact .taken after next happened finished (moved ▸ gone)
      · exact .cancelled after next happened (moved ▸ gone)
    · exact .told (same ▸ finished)
  | taken after' before happened had gone =>
    exact .taken after' (Nat.lt_succ_of_lt before) happened had (forgotten_succ came gone)
  | cancelled after' before happened gone =>
    exact .cancelled after' (Nat.lt_succ_of_lt before) happened (forgotten_succ came gone)

/-- Whoever waits for a query that fails gets its error, unless nobody wants the result any more. -/
theorem Replied.refuses (replied : h.Replied n q key (.error e) now)
    (waiting : (h.state n).phase? i = some (.waiting q key' purpose)) (later : n < k) :
    h.Refused n k i q key' purpose e := by
  induction later with
  | refl =>
    have still : (h.state (n + 1)).phase? i = some (.waiting q key' purpose) := by
      rw [replied.settled]
      exact waiting
    exact .of_waiting (replied.outcome (Nat.lt_succ_self n)) still
  | @step k after refused =>
    have came : i < (h.state k).nextCall := Nat.lt_of_lt_of_le (phase?_lt waiting) (nextCall_mono (Nat.le_of_lt after))
    exact refused.step after (replied.outcome (Nat.lt_succ_of_lt after)) came

end

/-- Only a status of 200 is a success, and a check needs a readable body besides. An error reaches all who wait for it
and changes nothing else. -/
theorem replies_mapped :
    (∀ (a : HttpAuthority) (moment : SigningMoment) (key : CheckKey) (sent : HttpRequest),
      a.message moment (.check key) = .ok sent → ∀ (status : Nat) (body : Bytes),
        (∀ grant, a.check moment key (.complete status body) = .ok grant ↔
          status = 200 ∧ ∃ r, CheckReply.ofJson body = .ok r ∧ r.toGrant = grant) ∧
        (status ≠ 200 → a.check moment key (.complete status body) =
          .error (.authority status (HttpReply.text status body))) ∧
        (status = 200 → (∀ r, CheckReply.ofJson body ≠ .ok r) →
          ∃ text, a.check moment key (.complete status body) = .error (.invalidResponse text)) ∧
        (status ≠ 200 ∨ (∀ r, CheckReply.ofJson body ≠ .ok r) →
          ∃ e, a.check moment key (.complete status body) = .error e ∧
            ∀ (App : Type) (h : ClientHistory App) n q now,
              h.Replied n q key (a.check moment key (.complete status body)) now →
              h.state (n + 1) =
                { h.state n with
                  queries := (h.state n).queries.insert q ⟨key, .answered (.error e)⟩
                  inFlight := (h.state n).inFlight.erase key } ∧
              ∀ i key' purpose, (h.state n).phase? i = some (.waiting q key' purpose) →
                ∀ k, n < k → h.Refused n k i q key' purpose e)) ∧
    (∀ (a : HttpAuthority) (moment : SigningMoment) (r : AuthorityRequest) (sent : HttpRequest),
      a.message moment r = .ok sent → ∀ (status : Nat) (body : Bytes),
        (a.post moment r (.complete status body) = .ok () ↔ status = 200) ∧
        (status ≠ 200 → a.post moment r (.complete status body) =
          .error (.authority status (HttpReply.text status body)))) ∧
    ∀ status, status ∉ HttpReply.bodiless → ∀ written, HttpReply.text status (utf8 written) = written := by
  refine ⟨?_, ?_, fun status => HttpReply.text_utf8⟩
  · intro a moment key sent sends status body
    rw [HttpAuthority.check_sent sends]
    refine ⟨fun grant => HttpReply.toGrant_eq_ok_iff, HttpReply.toGrant_rejected, ?_, ?_⟩
    · rintro rfl unread
      exact ⟨_, HttpReply.toGrant_unreadable unread⟩
    · intro failing
      cases came : (HttpReply.complete status body).toGrant with
      | ok grant =>
        obtain ⟨success, r, read, _⟩ := HttpReply.toGrant_eq_ok_iff.mp came
        exact (failing.elim (· success) fun unread => unread r read).elim
      | error e =>
        refine ⟨e, rfl, fun App h n q now replied => ?_⟩
        exact ⟨replied.settled, fun i key' purpose waiting k later => replied.refuses waiting later⟩
  · intro a moment r sent sends status body
    rw [HttpAuthority.post_sent sends]
    exact ⟨HttpReply.toUnit_eq_ok_iff, HttpReply.toUnit_rejected⟩

def grantingText : String := "\x7b\"feature_id\":\"suite\",\"enabled\":true\x7d"

/-- Three calls wait when the authority forbids the check with a text that would grant it. One of them is told, one is
given up, and one goes on waiting. -/
def forbidden : ClientHistory Unit :=
  ofEvents [.call (.check .product) (atSecond 0), .call (.consume .product 1) (atSecond 0),
    .call (.acquire .product) (atSecond 0), .ask 0,
    .queryReply 0 (.error (.authority 403 grantingText)) (atSecond 1).now, .resume 0 (atSecond 1), .cancel 1, .take 0]

theorem forbidden_mapped :
    (∃ r, CheckReply.ofJson (utf8 grantingText) = .ok r ∧
      exampleAuthority.check ⟨1700000000, "nonce"⟩ .product (.complete 200 (utf8 grantingText)) = .ok r.toGrant) ∧
    exampleAuthority.check ⟨1700000000, "nonce"⟩ .product (.complete 403 (utf8 grantingText)) =
      .error (.authority 403 grantingText) ∧
    (∃ text, exampleAuthority.check ⟨1700000000, "nonce"⟩ .product (.complete 200 (utf8 "maintenance")) =
      .error (.invalidResponse text)) ∧
    (exampleAuthority.post ⟨1700000000, "nonce"⟩ (.heartbeat ⟨"1.0.0"⟩) (.complete 200 (utf8 "maintenance")) = .ok () ∧
      exampleAuthority.post ⟨1700000000, "nonce"⟩ (.heartbeat ⟨"1.0.0"⟩) (.complete 204 []) =
        .error (.authority 204 "")) ∧
    forbidden.Replied 4 0 .product (.error (.authority 403 grantingText)) (atSecond 1).now ∧
    forbidden.state 5 =
      { forbidden.state 4 with
        queries := (forbidden.state 4).queries.insert 0 ⟨.product, .answered (.error (.authority 403 grantingText))⟩
        inFlight := (forbidden.state 4).inFlight.erase .product } ∧
    forbidden.Refused 4 8 0 0 .product .show (.authority 403 grantingText) ∧
    forbidden.Refused 4 8 1 0 .product (.consume 1) (.authority 403 grantingText) ∧
    forbidden.Refused 4 8 2 0 .product .slot (.authority 403 grantingText) := by
  obtain ⟨checks, posts, written⟩ := replies_mapped
  have check := checks exampleAuthority _ _ _ message_product
  have post := posts exampleAuthority ⟨1700000000, "nonce"⟩ (.heartbeat ⟨"1.0.0"⟩)
  have readable : (CheckReply.ofJson (utf8 grantingText)).toOption.isSome = true := by decide +kernel
  have unreadable : (CheckReply.ofJson (utf8 "maintenance")).toOption.isSome = false := by decide +kernel
  have addressed : (exampleAuthority.url (.heartbeat ⟨"1.0.0"⟩)).toOption.isSome = true := by decide +kernel
  obtain ⟨r, read⟩ := Option.isSome_iff_exists.mp readable
  obtain ⟨url, address⟩ := Option.isSome_iff_exists.mp addressed
  have sends : ∃ sent, exampleAuthority.message ⟨1700000000, "nonce"⟩ (.heartbeat ⟨"1.0.0"⟩) = .ok sent := by
    rw [HttpAuthority.message, ok_of_toOption address]
    exact ⟨_, rfl⟩
  obtain ⟨sent, sends⟩ := sends
  have unread (r : CheckReply) : CheckReply.ofJson (utf8 "maintenance") ≠ .ok r := by
    intro read
    rw [read] at unreadable
    cases unreadable
  have rejected := (check 403 (utf8 grantingText)).2.1 (by decide)
  rw [written 403 (by decide)] at rejected
  obtain ⟨e, came, refuses⟩ := (check 403 (utf8 grantingText)).2.2.2 (Or.inl (by decide))
  cases rejected.symm.trans came
  have replied : forbidden.Replied 4 0 .product (.error (.authority 403 grantingText)) (atSecond 1).now := ⟨rfl, rfl⟩
  obtain ⟨settled, told⟩ := refuses Unit forbidden 4 0 (atSecond 1).now (rejected ▸ replied)
  refine ⟨⟨r, ok_of_toOption read, ?_⟩, rejected, ?_, ⟨?_, ?_⟩, replied, settled, ?_, ?_, ?_⟩
  · exact ((check 200 _).1 _).mpr ⟨rfl, r, ok_of_toOption read, rfl⟩
  · exact (check 200 _).2.2.1 rfl unread
  · exact (post sent sends 200 _).1.mpr rfl
  · exact (post sent sends 204 _).2 (by decide)
  · exact told 0 .product .show rfl 8 (by decide)
  · exact told 1 .product (.consume 1) rfl 8 (by decide)
  · exact told 2 .product .slot rfl 8 (by decide)

end ClientHistory

end Entitlement
