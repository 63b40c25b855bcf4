import Entitlement.Proofs.Client.Entry
import Entitlement.Client.Event

/-!
What a client knows: its cache, its queries, which of them are in flight, and what it has asked. `Learns`
lists all that an event can do to it, and `step_learns` shows that the list is complete; whatever is said
about knowledge over a whole run rests on this list alone.
-/

namespace Entitlement

structure Knowledge where
  cache : Cache Snapshot
  inFlight : Table CheckKey QueryId
  queries : Table QueryId Query
  nextQuery : QueryId
  asks : List CheckKey
  closed : Bool

namespace ClientEvent

variable {App : Type}

/-- Events that have to do neither with queries nor with the cache. -/
def IsAside : ClientEvent App → Prop
  | .call .. | .ask _ | .queryReply .. | .queryPanic .. | .invalidate _ | .clearCache | .close | .abandon =>
    False
  | _ => True

end ClientEvent

namespace Client

variable {App : Type}

def knowledge (c : Client App) : Knowledge :=
  ⟨c.cache, c.inFlight, c.queries, c.nextQuery, c.asks, c.closed⟩

/-- Why an event teaches a client nothing. -/
inductive Unmoved (c : Client App) : ClientEvent App → Prop
  | aside {e : ClientEvent App} (aside : e.IsAside) : Unmoved c e
  | call {request : CallRequest} {m : Moment App}
      (served : ∀ key purpose, c.need? request m = some (key, purpose) → c.cache.get? key m.now = none →
        c.inFlight.find? key ≠ none) : Unmoved c (.call request m)
  | ask {q : QueryId} (unfit : ∀ key, c.queries.find? q ≠ some ⟨key, .queued⟩) : Unmoved c (.ask q)
  | reply {q : QueryId} {reply : Except ClientError Grant} {now : Instant}
      (unfit : ∀ key, c.queries.find? q ≠ some ⟨key, .asked⟩) : Unmoved c (.queryReply q reply now)
  | panic {q : QueryId} {message : String} (unfit : ∀ key, c.queries.find? q ≠ some ⟨key, .asked⟩) :
      Unmoved c (.queryPanic q message)
  | shut (closed : c.closed = true) : Unmoved c .close

def cacheAfter (c : Client App) (key : CheckKey) (reply : Except ClientError Grant) (now : Instant) :
    Cache Snapshot :=
  match reply with
  | .ok grant =>
    if c.closed then c.cache
    else c.cache.put key grant.snapshot (c.cache.effectiveTtl grant.cacheTtl) now
  | .error _ => c.cache

def landed (inFlight : Table CheckKey QueryId) (key : CheckKey) (q : QueryId) : Table CheckKey QueryId :=
  if inFlight.find? key = some q then inFlight.erase key else inFlight

/-- All that an event can do to what a client knows. -/
inductive Learns (c : Client App) : ClientEvent App → Knowledge → Prop
  | unmoved {e : ClientEvent App} (why : Unmoved c e) : Learns c e c.knowledge
  | begun {request : CallRequest} {m : Moment App} {key : CheckKey} {purpose : Purpose}
      (need : c.need? request m = some (key, purpose)) (stale : c.cache.get? key m.now = none)
      (free : c.inFlight.find? key = none) :
      Learns c (.call request m)
        { c.knowledge with
          inFlight := c.inFlight.insert key c.nextQuery
          queries := c.queries.insert c.nextQuery ⟨key, .queued⟩
          nextQuery := c.nextQuery + 1 }
  | asked {q : QueryId} {key : CheckKey} (queued : c.queries.find? q = some ⟨key, .queued⟩) :
      Learns c (.ask q)
        { c.knowledge with queries := c.queries.insert q ⟨key, .asked⟩, asks := c.asks ++ [key] }
  | answered {q : QueryId} {key : CheckKey} {reply : Except ClientError Grant} {now : Instant}
      (asked : c.queries.find? q = some ⟨key, .asked⟩) :
      Learns c (.queryReply q reply now)
        { c.knowledge with
          cache := c.cacheAfter key reply now
          inFlight := landed c.inFlight key q
          queries := c.queries.insert q ⟨key, .answered (reply.map Grant.snapshot)⟩ }
  | panicked {q : QueryId} {key : CheckKey} {message : String}
      (asked : c.queries.find? q = some ⟨key, .asked⟩) :
      Learns c (.queryPanic q message)
        { c.knowledge with queries := c.queries.insert q ⟨key, .panicked message⟩ }
  | invalidated (key : CheckKey) :
      Learns c (.invalidate key) { c.knowledge with cache := (c.cache.invalidate key).2 }
  | cleared : Learns c .clearCache { c.knowledge with cache := c.cache.invalidateAll }
  | closed (opened : c.closed = false) :
      Learns c .close { c.abortQueries.knowledge with cache := c.cache.invalidateAll, closed := true }
  | abandoned : Learns c .abandon c.abortQueries.knowledge

/-! ### The list is complete -/

theorem setPhase_knowledge (c : Client App) (i : CallId) (phase : Phase) :
    (c.setPhase i phase).knowledge = c.knowledge := rfl

theorem proceed_knowledge (c : Client App) (key : CheckKey) (purpose : Purpose)
    (result : Except ClientError Snapshot) (m : Moment App) :
    (c.proceed key purpose result m).2.knowledge = c.knowledge := by
  obtain ⟨asks, _, _, same⟩ := c.proceed_frame key purpose result m
  simp only [knowledge, asks]
  simp only [same]

theorem aside_knowledge (c : Client App) {e : ClientEvent App} (aside : e.IsAside) :
    (c.step e).knowledge = c.knowledge := by
  cases e with
  | resume i m =>
    rcases c.resume_settled i m with same | ⟨_, _, _, _, _, _, same⟩
    · exact congrArg knowledge same
    · exact (congrArg knowledge same).trans ((setPhase_knowledge ..).trans (proceed_knowledge ..))
  | take i => simp only [step, take]; split <;> rfl
  | reportReply i reply => simp only [step, reportReplied]; split <;> rfl
  | registerReply i reply now =>
    simp only [step, registerReplied]
    split
    · split <;> rfl
    · rfl
  | registerProviders p =>
    simp only [step, registerProviders]
    split
    · rfl
    · cases c.providers.register p <;> rfl
  | heartbeatTick now =>
    simp only [step, heartbeatTick]
    split
    · simp only [knowledge, asks_send, AuthorityRequest.checkKey?, Option.toList_none, List.append_nil]
      rfl
    · rfl
  | cancel | releaseSlot | dropSlot | readRate | heartbeatReply | heartbeatPanic => rfl
  | _ => exact aside.elim

theorem call_learns (c : Client App) (request : CallRequest) (m : Moment App) :
    Learns c (.call request m) (c.start request m).knowledge := by
  obtain ⟨phase, after, entered, same⟩ := c.start_entered request m
  have known : (c.start request m).knowledge = after.knowledge := by rw [same]; rfl
  rw [known]
  have silent {after : Client App} (kept : after.knowledge = c.knowledge) (why : Unmoved c (.call request m)) :
      Learns c (.call request m) after.knowledge := by
    rw [kept]
    exact .unmoved why
  cases entered with
  | idle sent noNeed idle asks =>
    refine silent ?_ (.call fun _ _ need => by simp [noNeed] at need)
    exact congrArg (fun asks => { c.knowledge with asks }) asks
  | hit window need fresh =>
    refine silent (proceed_knowledge ..) (.call fun key purpose need' stale => ?_)
    rw [need] at need'
    obtain ⟨rfl, rfl⟩ := Prod.mk.inj (Option.some.inj need')
    simp [fresh] at stale
  | told window need stale inFlight ended =>
    refine silent (proceed_knowledge ..) (.call fun key purpose need' _ => ?_)
    rw [need] at need'
    obtain ⟨rfl, rfl⟩ := Prod.mk.inj (Option.some.inj need')
    simp [inFlight]
  | joined window need stale inFlight pending =>
    refine silent rfl (.call fun key purpose need' _ => ?_)
    rw [need] at need'
    obtain ⟨rfl, rfl⟩ := Prod.mk.inj (Option.some.inj need')
    simp [inFlight]
  | begun window need stale free => exact .begun need stale free

theorem setStatus_queries {c : Client App} {q : QueryId} {query : Query} (status : QueryStatus)
    (found : c.queries.find? q = some query) :
    (c.setStatus q status).queries = c.queries.insert q { query with status } := by
  simp only [setStatus, Table.modify, found]

theorem ask_learns (c : Client App) (q : QueryId) : Learns c (.ask q) (c.ask q).knowledge := by
  unfold ask
  split
  · next key queued =>
    have same : (((c.setStatus q .asked).send (.check key)).knowledge) =
        { c.knowledge with queries := (c.setStatus q .asked).queries, asks := c.asks ++ [key] } :=
      congrArg (fun asks => { c.knowledge with queries := (c.setStatus q .asked).queries, asks })
        ((c.setStatus q .asked).asks_send (.check key))
    rw [same, setStatus_queries .asked queued]
    exact .asked queued
  · next unfit => exact .unmoved (.ask fun key => unfit key)

theorem land_knowledge (c : Client App) (key : CheckKey) (q : QueryId) :
    (c.land key q).knowledge = { c.knowledge with inFlight := landed c.inFlight key q } := by
  unfold land landed
  split <;> rfl

theorem reply_learns (c : Client App) (q : QueryId) (reply : Except ClientError Grant) (now : Instant) :
    Learns c (.queryReply q reply now) (c.queryReplied q reply now).knowledge := by
  unfold queryReplied
  split
  · next key asked =>
    have same (cache : Cache Snapshot) (status : QueryStatus) :
        ((({ c with cache } : Client App).setStatus q status).land key q).knowledge =
          { c.knowledge with
            cache, inFlight := landed c.inFlight key q, queries := (c.setStatus q status).queries } :=
      land_knowledge ..
    rw [same, setStatus_queries _ asked]
    exact .answered asked
  · next unfit => exact .unmoved (.reply fun key => unfit key)

theorem panic_learns (c : Client App) (q : QueryId) (message : String) :
    Learns c (.queryPanic q message) (c.queryPanicked q message).knowledge := by
  unfold queryPanicked
  split
  · next asked =>
    obtain ⟨⟨key, status⟩, found, rfl⟩ := Option.map_eq_some_iff.mp asked
    have same : (c.setStatus q (.panicked message)).knowledge =
        { c.knowledge with queries := (c.setStatus q (.panicked message)).queries } := rfl
    rw [same, setStatus_queries _ found]
    exact .panicked found
  · next unfit => exact .unmoved (.panic fun key found => unfit (by simp [queryStatus?, found]))

/-- An event does to what a client knows one of the things on the list, and nothing else. -/
theorem step_learns (c : Client App) (e : ClientEvent App) : Learns c e (c.step e).knowledge := by
  cases e with
  | call request m => exact c.call_learns request m
  | ask q => exact c.ask_learns q
  | queryReply q reply now => exact c.reply_learns q reply now
  | queryPanic q message => exact c.panic_learns q message
  | invalidate key => exact .invalidated key
  | clearCache => exact .cleared
  | abandon => exact .abandoned
  | close =>
    cases state : c.closed with
    | true =>
      have same : c.step .close = c := by simp [step, close, state]
      rw [same]
      exact .unmoved (.shut state)
    | false =>
      have same : (c.step .close).knowledge =
          { c.abortQueries.knowledge with cache := c.cache.invalidateAll, closed := true } := by
        simp only [step, close, state]
        rfl
      rw [same]
      exact .closed state
  | _ =>
    rw [aside_knowledge c (by trivial)]
    exact .unmoved (.aside (by trivial))

end Client

end Entitlement
