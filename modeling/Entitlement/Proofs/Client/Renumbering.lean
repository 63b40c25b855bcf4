import Entitlement.Proofs.Client.Labels

/-!
Restricting a history to one key. What is about another key is left out, and the numbers of the calls, queries and
guards that stay close up. A call of the restricted history is like the one that it comes from: it differs by the
numbers that it names and, if it is one that reads the rate, by what it has read.
-/

namespace Entitlement

/-- What is about `k`, or about no key, is kept. -/
def CheckKey.Keeps (k : CheckKey) (key? : Option CheckKey) : Prop := key? = none ∨ key? = some k

instance (k : CheckKey) (key? : Option CheckKey) : Decidable (k.Keeps key?) := inferInstanceAs (Decidable (_ ∨ _))

theorem CheckKey.Keeps.eq {k key : CheckKey} (keeps : k.Keeps (some key)) : key = k :=
  Option.some.inj (keeps.resolve_left (Option.some_ne_none _))

theorem CheckKey.keeps_self (k : CheckKey) : k.Keeps (some k) := Or.inr rfl

namespace Labels.Names

variable {App : Type} {t : Labels} {k : CheckKey} {c : Client App}

theorem query_kept (names : t.Names c) {q : QueryId} {key : CheckKey} {status : QueryStatus}
    (keeps : k.Keeps (t.query q)) (found : c.queries.find? q = some ⟨key, status⟩) : key = k := by
  rw [names.query q _ found] at keeps
  exact keeps.eq

theorem query_other (names : t.Names c) {q : QueryId} {key : CheckKey} {status : QueryStatus}
    (other : ¬ k.Keeps (t.query q)) (found : c.queries.find? q = some ⟨key, status⟩) : key ≠ k := by
  rintro rfl
  exact other (Or.inr (names.query q _ found))

/-- The guard of another key frees no slot under `k`. -/
theorem guard_other (names : t.Names c) {g : GuardId} (other : ¬ k.Keeps (t.guard g)) (guard : Guard)
    (found : c.ledger.guards.find? g = some guard) : guard.key ≠ c.slotKey k := by
  intro same
  rw [names.guard g guard found, same] at other
  exact other k.keeps_self

end Labels.Names

/-- New numbers for old ones. -/
structure Renumbering where
  call : CallId → CallId
  query : QueryId → QueryId
  guard : GuardId → GuardId

/-- The numbers that are kept, counted anew. -/
def Labels.ranks (t : Labels) (k : CheckKey) : Renumbering where
  call := Nat.count fun i => k.Keeps (t.call i)
  query := Nat.count fun q => k.Keeps (t.query q)
  guard := Nat.count fun g => k.Keeps (t.guard g)

theorem Labels.ranks_call_succ (t : Labels) (k : CheckKey) (i : CallId) :
    (t.ranks k).call (i + 1) = (t.ranks k).call i + if k.Keeps (t.call i) then 1 else 0 :=
  Nat.count_succ ..

theorem Labels.ranks_query_succ (t : Labels) (k : CheckKey) (q : QueryId) :
    (t.ranks k).query (q + 1) = (t.ranks k).query q + if k.Keeps (t.query q) then 1 else 0 :=
  Nat.count_succ ..

def ClientEvent.renumber {App : Type} (r : Renumbering) : ClientEvent App → ClientEvent App
  | .resume i m => .resume (r.call i) m
  | .take i => .take (r.call i)
  | .cancel i => .cancel (r.call i)
  | .ask q => .ask (r.query q)
  | .queryReply q reply now => .queryReply (r.query q) reply now
  | .queryPanic q message => .queryPanic (r.query q) message
  | .reportReply i reply => .reportReply (r.call i) reply
  | .registerReply i reply now => .registerReply (r.call i) reply now
  | .releaseSlot g => .releaseSlot (r.guard g)
  | .dropSlot g => .dropSlot (r.guard g)
  | e => e

def CallValue.renumber (r : Renumbering) : CallValue → CallValue
  | .slot outcome => .slot (outcome.renumber r.guard)
  | v => v

def Phase.renumber (r : Renumbering) : Phase → Phase
  | .waiting q key purpose => .waiting (r.query q) key purpose
  | .finished result => .finished (result.map (CallValue.renumber r))
  | phase => phase

/-! ### Likeness -/

/-- The rate is that of all keys together. -/
def CallRequest.ReadsRate : CallRequest → Prop
  | .checkRate _ => True
  | _ => False

/-- The same purpose, or another rate where rates may differ. -/
inductive Purpose.Like (rates : Prop) : Purpose → Purpose → Prop
  | refl (purpose : Purpose) : Like rates purpose purpose
  | rate (differ : rates) (x y : Float) : Like rates (.rate x) (.rate y)

inductive CallResult.Like (rates : Prop) (r : Renumbering) : CallResult → CallResult → Prop
  | renumbered (result : CallResult) : Like rates r result (result.map (CallValue.renumber r))
  | rated (differ : rates) (o o' : RateOutcome) : Like rates r (.ok (.rated o)) (.ok (.rated o'))

inductive Phase.Like (rates : Prop) (r : Renumbering) : Phase → Phase → Prop
  | waiting (q : QueryId) (key : CheckKey) {purpose purpose' : Purpose} (like : purpose.Like rates purpose') :
      Like rates r (.waiting q key purpose) (.waiting (r.query q) key purpose')
  | reporting (outcome : Option ConsumeOutcome) : Like rates r (.reporting outcome) (.reporting outcome)
  | registering : Like rates r .registering .registering
  | finished {result result' : CallResult} (like : CallResult.Like rates r result result') :
      Like rates r (.finished result) (.finished result')

structure Call.Like (r : Renumbering) (x y : Call) : Prop where
  request : y.request = x.request
  phase : x.phase.Like x.request.ReadsRate r y.phase

namespace Phase.Like

variable {rates : Prop} {r : Renumbering} {phase phase' : Phase}

theorem failed (e : ClientError) : Like rates r (.finished (.error e)) (.finished (.error e)) :=
  .finished (.renumbered (.error e))

/-- Where rates do not differ, only the numbers do. -/
theorem eq_renumber (like : Like rates r phase phase') (alike : ¬ rates) : phase' = phase.renumber r := by
  cases like with
  | waiting q key like =>
    cases like with
    | refl => rfl
    | rate differ => exact (alike differ).elim
  | reporting | registering => rfl
  | finished like =>
    cases like with
    | renumbered => rfl
    | rated differ => exact (alike differ).elim

theorem guard? (like : Like rates r phase phase') : phase'.guard? = phase.guard?.map r.guard := by
  cases like with
  | waiting | reporting | registering => rfl
  | @finished result _ like =>
    cases like with
    | rated => rfl
    | renumbered =>
      rcases result with _ | (_ | _ | _ | _ | _ | ⟨_ | _⟩)
      all_goals rfl

end Phase.Like

end Entitlement
