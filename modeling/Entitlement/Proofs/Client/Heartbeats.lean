import Entitlement.Proofs.Client.Closing

/-!
One heartbeat at most. A loop is a task of its own: it goes on until somebody stops it, and the client has its hand on
the last one only. So what a client has begun is followed here loop by loop (`HeartbeatTasks`), and no event leaves one
running that the client has not in hand (`Kept.step`). The loop in hand is the one that the client itself goes by.
-/

namespace Entitlement

namespace HeartbeatLoop

/-- What leaves a loop that is off and one that is broken as it is leaves all as they are that do not run. -/
theorem idle_fixed {f : HeartbeatLoop → HeartbeatLoop} (off : f .off = .off) (broken : f .broken = .broken)
    {loop : HeartbeatLoop} (idle : loop.isRunning = false) : f loop = loop := by
  cases loop with
  | off => exact off
  | broken => exact broken
  | starting | waiting | beating => cases idle

theorem isRunning_reply (loop : HeartbeatLoop) : loop.reply.isRunning = loop.isRunning := by
  cases loop <;> rfl

end HeartbeatLoop

/-- Every loop that was ever begun, by its number, and the one that the client has in hand. -/
structure HeartbeatTasks where
  loops : List HeartbeatLoop := []
  hand : Option Nat := none

namespace HeartbeatTasks

variable {App : Type}

def inHand (t : HeartbeatTasks) : HeartbeatLoop := (t.hand.bind (t.loops[·]?)).getD .off

def Alive (t : HeartbeatTasks) (id : Nat) : Prop := ∃ loop, t.loops[id]? = some loop ∧ loop.isRunning = true

/-- Another loop begins unless the one in hand is running. Nobody stops the one before. -/
def start (t : HeartbeatTasks) (now : Instant) : HeartbeatTasks :=
  if t.inHand.isRunning then t else ⟨t.loops ++ [.starting now], some t.loops.length⟩

def each (t : HeartbeatTasks) (f : HeartbeatLoop → HeartbeatLoop) : HeartbeatTasks :=
  { t with loops := t.loops.map f }

/-- The loop in hand is stopped, and no other. -/
def stop (t : HeartbeatTasks) : HeartbeatTasks :=
  match t.hand with
  | some id => ⟨t.loops.set id .off, none⟩
  | none => t

/-- What an event that befalls a client does to its loops. -/
def step (t : HeartbeatTasks) (c : Client App) : ClientEvent App → HeartbeatTasks
  | .registerReply i (.ok _) now =>
    match c.phase? i with
    | some .registering => if c.closed then t else t.start now
    | _ => t
  | .heartbeatTick now => t.each fun loop => (loop.tick c.config.heartbeatInterval now).2
  | .heartbeatReply _ => t.each .reply
  | .heartbeatPanic => t.each .breakDown
  | .close => if c.closed then t else t.stop
  | .abandon => t.stop
  | _ => t

/-! ### The loop in hand -/

/-- The client goes by the loop in hand, and no other loop is running. -/
structure Kept (t : HeartbeatTasks) (c : Client App) : Prop where
  inHand : t.inHand = c.heartbeat
  others : ∀ id loop, t.loops[id]? = some loop → t.hand ≠ some id → loop.isRunning = false

theorem inHand_each (t : HeartbeatTasks) {f : HeartbeatLoop → HeartbeatLoop} (off : f .off = .off) :
    (t.each f).inHand = f t.inHand := by
  unfold inHand each
  cases t.hand with
  | none => exact off.symm
  | some id =>
    simp only [Option.bind_some, List.getElem?_map]
    cases t.loops[id]? with
    | none => exact off.symm
    | some loop => rfl

theorem stop_hand (t : HeartbeatTasks) : t.stop.hand = none := by
  unfold stop
  split
  · rfl
  · next empty => exact empty

variable {t : HeartbeatTasks} {c : Client App}

theorem Kept.each (kept : Kept t c) {f : HeartbeatLoop → HeartbeatLoop} (off : f .off = .off)
    (broken : f .broken = .broken) {after : Client App} (same : after.heartbeat = f c.heartbeat) :
    Kept (t.each f) after := by
  constructor
  · rw [t.inHand_each off, kept.inHand, same]
  · intro id loop found other
    obtain ⟨before, present, rfl⟩ := Option.map_eq_some_iff.mp (List.getElem?_map ▸ found)
    have idle := kept.others id before present other
    rw [HeartbeatLoop.idle_fixed off broken idle]
    exact idle

theorem Kept.start (kept : Kept t c) (now : Instant) {after : Client App}
    (same : after.heartbeat = c.heartbeat.start now) : Kept (t.start now) after := by
  unfold HeartbeatTasks.start
  cases running : t.inHand.isRunning with
  | true =>
    rw [if_pos rfl]
    refine ⟨?_, kept.others⟩
    rw [same, ← kept.inHand, HeartbeatLoop.start, if_pos running]
  | false =>
    rw [if_neg (by decide)]
    constructor
    · rw [same, ← kept.inHand, HeartbeatLoop.start, running]
      simp [HeartbeatTasks.inHand]
    · intro id loop found other
      have earlier : t.loops[id]? = some loop := by
        rw [List.getElem?_append] at found
        split at found
        · exact found
        · next beyond =>
          have last : id = t.loops.length := by
            have within := (List.getElem?_eq_some_iff.mp found).1
            simp only [List.length_singleton] at within
            omega
          exact (other (congrArg some last.symm)).elim
      -- The loop that was in hand is left alone, so it must not be running either.
      by_cases held : t.hand = some id
      · rw [HeartbeatTasks.inHand, held, Option.bind_some, earlier, Option.getD_some] at running
        exact running
      · exact kept.others id loop earlier held

theorem Kept.stop (kept : Kept t c) {after : Client App} (same : after.heartbeat = .off) : Kept t.stop after := by
  refine ⟨?_, ?_⟩
  · rw [HeartbeatTasks.inHand, t.stop_hand, same]
    rfl
  · intro id loop found _
    unfold HeartbeatTasks.stop at found
    split at found
    · next held hand =>
      simp only [List.getElem?_set] at found
      split at found
      · split at found
        · cases found
          rfl
        · cases found
      · next other =>
        refine kept.others id loop found ?_
        rw [hand]
        rintro ⟨⟩
        exact other rfl
    · next hand => exact kept.others id loop found (by rw [hand]; exact nofun)

theorem Kept.frame (kept : Kept t c) {after : Client App} (same : after.heartbeat = c.heartbeat) : Kept t after :=
  ⟨kept.inHand.trans same.symm, kept.others⟩

theorem Kept.register (kept : Kept t c) (i : CallId) (reply : Except ClientError Unit) (now : Instant) :
    Kept (t.step c (.registerReply i reply now)) (c.registerReplied i reply now) := by
  unfold Client.registerReplied
  split
  · next pending =>
    cases reply with
    | error e => exact kept.frame rfl
    | ok =>
      simp only [HeartbeatTasks.step, pending]
      split
      · exact kept.frame rfl
      · exact kept.start now rfl
  · next others =>
    refine Kept.frame ?_ rfl
    cases reply with
    | error e => exact kept
    | ok =>
      simp only [HeartbeatTasks.step]
      exact kept

theorem Kept.step (kept : Kept t c) (e : ClientEvent App) : Kept (t.step c e) (c.step e) := by
  cases e with
  | registerReply i reply now => exact kept.register i reply now
  | heartbeatTick now =>
    refine kept.each rfl rfl ?_
    simp only [Client.step, Client.heartbeatTick]
    split <;> rfl
  | heartbeatReply | heartbeatPanic => exact kept.each rfl rfl rfl
  | abandon => exact kept.stop rfl
  | close =>
    simp only [HeartbeatTasks.step, Client.step, Client.close]
    split
    · exact kept
    · exact kept.stop rfl
  | call request m =>
    obtain ⟨phase, after, entered, same⟩ := c.start_entered request m
    obtain ⟨_, _, _, _, _, _, rfl⟩ := entered.frame
    refine kept.frame ?_
    rw [Client.step, same]
  | resume i m =>
    obtain ⟨_, _, _, same⟩ := c.resume_frame i m
    refine kept.frame ?_
    rw [Client.step, same]
  | queryReply q reply now =>
    refine kept.frame ?_
    simp only [Client.step, Client.queryReplied]
    split
    · next key _ =>
      obtain ⟨_, same⟩ := Client.land_frame _ key q
      rw [same]
      rfl
    · rfl
  | registerProviders p =>
    refine kept.frame ?_
    simp only [Client.step, Client.registerProviders]
    split
    · rfl
    · cases c.providers.register p <;> rfl
  | take i => exact kept.frame (by simp only [Client.step, Client.take]; split <;> rfl)
  | ask q => exact kept.frame (by simp only [Client.step, Client.ask]; split <;> rfl)
  | queryPanic q message => exact kept.frame (by simp only [Client.step, Client.queryPanicked]; split <;> rfl)
  | reportReply i reply => exact kept.frame (by simp only [Client.step, Client.reportReplied]; split <;> rfl)
  | _ => exact kept.frame rfl

/-! ### Alive -/

theorem Kept.alive_hand (kept : Kept t c) {id : Nat} (alive : t.Alive id) : t.hand = some id := by
  obtain ⟨loop, found, running⟩ := alive
  by_cases held : t.hand = some id
  · exact held
  · cases running.symm.trans (kept.others id loop found held)

theorem Kept.alive_iff (kept : Kept t c) : (∃ id, t.Alive id) ↔ c.heartbeatRunning = true := by
  rw [Client.heartbeatRunning, ← kept.inHand]
  constructor
  · rintro ⟨id, alive⟩
    have held := kept.alive_hand alive
    obtain ⟨loop, found, running⟩ := alive
    rw [HeartbeatTasks.inHand, held, Option.bind_some, found]
    exact running
  · intro running
    cases held : t.hand with
    | none =>
      rw [HeartbeatTasks.inHand, held] at running
      cases running
    | some id =>
      cases found : t.loops[id]? with
      | none =>
        rw [HeartbeatTasks.inHand, held, Option.bind_some, found] at running
        cases running
      | some loop =>
        rw [HeartbeatTasks.inHand, held, Option.bind_some, found] at running
        exact ⟨id, loop, found, running⟩

theorem alive_each {f : HeartbeatLoop → HeartbeatLoop} (off : f .off = .off) (broken : f .broken = .broken)
    {id : Nat} (alive : (t.each f).Alive id) : t.Alive id := by
  obtain ⟨after, found, running⟩ := alive
  obtain ⟨loop, present, rfl⟩ := Option.map_eq_some_iff.mp (List.getElem?_map ▸ found)
  cases state : loop.isRunning with
  | true => exact ⟨loop, present, state⟩
  | false =>
    rw [HeartbeatLoop.idle_fixed off broken state, state] at running
    cases running

theorem alive_stop {id : Nat} (alive : t.stop.Alive id) : t.Alive id := by
  obtain ⟨loop, found, running⟩ := alive
  unfold stop at found
  split at found
  · simp only [List.getElem?_set] at found
    split at found
    · split at found
      · cases found
        cases running
      · cases found
    · exact ⟨loop, found, running⟩
  · exact ⟨loop, found, running⟩

theorem alive_step {e : ClientEvent App} {id : Nat} (alive : (t.step c e).Alive id) :
    t.Alive id ∨ ∃ i now, e = .registerReply i (.ok ()) now ∧ c.phase? i = some .registering := by
  cases e with
  | registerReply i reply now =>
    cases reply with
    | error => exact Or.inl alive
    | ok =>
      simp only [step] at alive
      split at alive
      · next pending => exact Or.inr ⟨i, now, rfl, pending⟩
      · exact Or.inl alive
  | heartbeatTick | heartbeatReply | heartbeatPanic => exact Or.inl (alive_each rfl rfl alive)
  | abandon => exact Or.inl (alive_stop alive)
  | close =>
    simp only [step] at alive
    split at alive
    · exact Or.inl alive
    · exact Or.inl (alive_stop alive)
  | _ => exact Or.inl alive

theorem length_start (t : HeartbeatTasks) (now : Instant) :
    t.loops.length < (t.start now).loops.length ↔ t.inHand.isRunning = false := by
  unfold start
  cases t.inHand.isRunning <;> simp

theorem length_stop (t : HeartbeatTasks) : t.stop.loops.length = t.loops.length := by
  unfold stop
  split
  · exact List.length_set
  · rfl

/-- A loop is begun only for a registration that has just succeeded. -/
theorem length_step (t : HeartbeatTasks) (c : Client App) (e : ClientEvent App) :
    t.loops.length < (t.step c e).loops.length ↔
      (∃ i now, e = .registerReply i (.ok ()) now ∧ c.phase? i = some .registering) ∧ c.closed = false ∧
        t.inHand.isRunning = false := by
  cases e with
  | registerReply i reply now =>
    cases reply with
    | error e => simp [step]
    | ok =>
      simp only [step]
      split
      · next pending =>
        cases state : c.closed with
        | true => simp
        | false => simp [length_start, pending]
      · next others =>
        refine iff_of_false (Nat.lt_irrefl _) ?_
        rintro ⟨⟨j, _, same, pending⟩, _⟩
        cases same
        exact others pending
  | heartbeatTick | heartbeatReply | heartbeatPanic => simp [step, each]
  | abandon => simp [step, length_stop]
  | close =>
    simp only [step]
    split <;> simp [length_stop]
  | _ => simp [step]

end HeartbeatTasks

/-- The same event, whatever is replied to a sign of life. -/
def ClientEvent.anyBeat {App : Type} : ClientEvent App → ClientEvent App
  | .heartbeatReply _ => .heartbeatReply (.ok ())
  | e => e

namespace ClientHistory
open History

variable {App : Type} {h : ClientHistory App}

/-- The loops of the client after `n` events. -/
def tasks (h : ClientHistory App) : Nat → HeartbeatTasks
  | 0 => {}
  | n + 1 => h.events[n]?.elim (h.tasks n) ((h.tasks n).step (h.state n))

/-- In the `n`th event the call `i` hears that its registration has succeeded. -/
def Registers (h : ClientHistory App) (n : Nat) (i : CallId) : Prop :=
  ∃ now, h.events[n]? = some (.registerReply i (.ok ()) now) ∧ (h.state n).phase? i = some .registering

theorem tasks_succ {n : Nat} {e : ClientEvent App} (happened : h.events[n]? = some e) :
    h.tasks (n + 1) = (h.tasks n).step (h.state n) e := by
  rw [tasks, happened, Option.elim_some]

theorem tasks_succ_of_none {n : Nat} (finished : h.events[n]? = none) : h.tasks (n + 1) = h.tasks n := by
  rw [tasks, finished, Option.elim_none]

theorem tasks_kept (h : ClientHistory App) (n : Nat) : (h.tasks n).Kept (h.state n) := by
  induction n with
  | zero =>
    rw [state_zero, Client.build_ok h.built]
    exact ⟨rfl, by simp [tasks]⟩
  | succ n ih =>
    rcases h.next n with ⟨e, happened, moved⟩ | ⟨finished, same⟩
    · rw [moved, tasks_succ happened]
      exact ih.step e
    · rw [same, tasks_succ_of_none finished]
      exact ih

theorem alive_registered {n id : Nat} (alive : (h.tasks n).Alive id) : ∃ m < n, ∃ i, h.Registers m i := by
  induction n with
  | zero =>
    obtain ⟨loop, found, _⟩ := alive
    cases found
  | succ n ih =>
    have earlier (before : (h.tasks n).Alive id) : ∃ m < n + 1, ∃ i, h.Registers m i := by
      obtain ⟨m, sooner, registers⟩ := ih before
      exact ⟨m, Nat.lt_succ_of_lt sooner, registers⟩
    rcases h.next n with ⟨e, happened, _⟩ | ⟨finished, _⟩
    · rw [tasks_succ happened] at alive
      rcases HeartbeatTasks.alive_step alive with before | ⟨i, now, rfl, pending⟩
      · exact earlier before
      · exact ⟨n, Nat.lt_succ_self n, i, now, happened, pending⟩
    · rw [tasks_succ_of_none finished] at alive
      exact earlier alive

theorem alive_open {n id : Nat} (alive : (h.tasks n).Alive id) {m : Nat} (sooner : m < n) :
    h.events[m]? ≠ some .close := by
  intro closing
  have running := (h.tasks_kept n).alive_iff.mp ⟨id, alive⟩
  have shut := h.shut n (closed_since closing sooner)
  rw [Client.heartbeatRunning, shut.heartbeat] at running
  cases running

theorem begun_iff (n : Nat) :
    (h.tasks n).loops.length < (h.tasks (n + 1)).loops.length ↔
      (∃ i, h.Registers n i) ∧ (h.state n).closed = false ∧ (h.state n).heartbeatRunning = false := by
  rw [Client.heartbeatRunning, ← (h.tasks_kept n).inHand]
  rcases h.next n with ⟨e, happened, _⟩ | ⟨finished, _⟩
  · rw [tasks_succ happened, HeartbeatTasks.length_step]
    simp only [Registers, happened, Option.some.injEq]
  · simp [tasks_succ_of_none finished, Registers, finished]

theorem reply_alive {n : Nat} {reply : Except ClientError Unit}
    (happened : h.events[n]? = some (.heartbeatReply reply)) (id : Nat) :
    (h.tasks (n + 1)).Alive id ↔ (h.tasks n).Alive id := by
  rw [tasks_succ happened]
  simp only [HeartbeatTasks.Alive, HeartbeatTasks.step, HeartbeatTasks.each, List.getElem?_map,
    Option.map_eq_some_iff]
  constructor
  · rintro ⟨_, ⟨loop, found, rfl⟩, running⟩
    exact ⟨loop, found, loop.isRunning_reply.symm.trans running⟩
  · rintro ⟨loop, found, running⟩
    exact ⟨loop.reply, ⟨loop, found, rfl⟩, loop.isRunning_reply.trans running⟩

theorem state_anyBeat {h' : ClientHistory App} (start : h'.start = h.start)
    (same : h'.events.map ClientEvent.anyBeat = h.events.map ClientEvent.anyBeat) (n : Nat) :
    h'.state n = h.state n := by
  have unheard (c : Client App) (events : List (ClientEvent App)) :
      events.foldl Client.step c = (events.map ClientEvent.anyBeat).foldl Client.step c := by
    rw [List.foldl_map]
    refine congrArg (fun step => events.foldl step c) (funext fun c => funext fun e => ?_)
    cases e <;> rfl
  simp only [state]
  rw [unheard, unheard h.start, List.map_take, List.map_take, same, start]

theorem unregistered_tasks {n : Nat} {i : CallId} {reply : Except ClientError Unit} {now : Instant}
    (happened : h.events[n]? = some (.registerReply i reply now))
    (idle : (∃ e, reply = .error e) ∨ ∃ m < n, h.events[m]? = some .close) : h.tasks (n + 1) = h.tasks n := by
  rw [tasks_succ happened]
  cases reply with
  | error e => rfl
  | ok =>
    obtain ⟨_, ⟨⟩⟩ | ⟨m, sooner, closing⟩ := idle
    simp only [HeartbeatTasks.step, closed_since closing sooner, ↓reduceIte]
    split <;> rfl

/-- At most one loop runs, begun by a registration that succeeds on an open client where none is running. No reply to
a sign of life ends it. -/
theorem one_heartbeat (h : ClientHistory App) :
    (∀ n, (h.tasks n).inHand = (h.state n).heartbeat ∧
      ((∃ id, (h.tasks n).Alive id) ↔ (h.state n).heartbeatRunning = true) ∧
      (∀ id id', (h.tasks n).Alive id → (h.tasks n).Alive id' → id = id') ∧
      ∀ id, (h.tasks n).Alive id →
        (∃ m < n, ∃ i, h.Registers m i) ∧ ∀ m < n, h.events[m]? ≠ some .close) ∧
    (∀ n, (h.tasks n).loops.length < (h.tasks (n + 1)).loops.length ↔
      (∃ i, h.Registers n i) ∧ (h.state n).closed = false ∧ (h.state n).heartbeatRunning = false) ∧
    (∀ n i reply now, h.events[n]? = some (.registerReply i reply now) →
      ((∃ e, reply = .error e) ∨ ∃ m < n, h.events[m]? = some .close) → h.tasks (n + 1) = h.tasks n) ∧
    (∀ n reply, h.events[n]? = some (.heartbeatReply reply) →
      (∀ id, (h.tasks (n + 1)).Alive id ↔ (h.tasks n).Alive id) ∧
      h.state (n + 1) = { h.state n with heartbeat := (h.state n).heartbeat.reply }) ∧
    ∀ h' : ClientHistory App, h'.start = h.start →
      h'.events.map ClientEvent.anyBeat = h.events.map ClientEvent.anyBeat → ∀ n, h'.state n = h.state n := by
  refine ⟨fun n => ?_, begun_iff, fun n i reply now => unregistered_tasks, fun n reply happened => ?_,
    fun h' start same => state_anyBeat start same⟩
  · have kept := h.tasks_kept n
    refine ⟨kept.inHand, kept.alive_iff, ?_, fun id alive => ⟨alive_registered alive, fun m => alive_open alive⟩⟩
    intro id id' alive alive'
    exact Option.some.inj ((kept.alive_hand alive).symm.trans (kept.alive_hand alive'))
  · exact ⟨reply_alive happened, state_succ happened⟩

/-- Of three registrations one fails, one begins a loop and one finds it running. The loop breaks down, a fourth
begins another, and a fifth succeeds too late. -/
def brokenHeartbeat : ClientHistory Unit :=
  ofEvents [.call .register (atSecond 0), .call .register (atSecond 0), .call .register (atSecond 0),
    .registerReply 1 (.error .timeout) (atSecond 1).now, .registerReply 0 (.ok ()) (atSecond 1).now,
    .registerReply 2 (.ok ()) (atSecond 1).now, .heartbeatTick (atSecond 1).now, .heartbeatTick (atSecond 6).now,
    .heartbeatReply (.error .timeout), .heartbeatPanic, .call .register (atSecond 7), .call .register (atSecond 7),
    .registerReply 3 (.ok ()) (atSecond 8).now, .close, .registerReply 4 (.ok ()) (atSecond 9).now]

theorem brokenHeartbeat_one :
    brokenHeartbeat.tasks 4 = brokenHeartbeat.tasks 3 ∧
    (brokenHeartbeat.tasks 6).loops = [.starting (atSecond 1).now] ∧
    (brokenHeartbeat.tasks 9).loops = [.waiting (atSecond 11).now] ∧ (brokenHeartbeat.tasks 9).Alive 0 ∧
    (brokenHeartbeat.tasks 13).loops = [.broken, .starting (atSecond 8).now] ∧
    (∀ id, (brokenHeartbeat.tasks 13).Alive id → id = 1) ∧
    (brokenHeartbeat.tasks 14).loops = [.broken, .off] ∧ brokenHeartbeat.tasks 15 = brokenHeartbeat.tasks 14 ∧
    (brokenHeartbeat.state 15).phase? 4 = some (.finished (.ok .done)) := by
  obtain ⟨always, _, idle, replies, _⟩ := one_heartbeat brokenHeartbeat
  refine ⟨idle 3 1 _ _ rfl (Or.inl ⟨_, rfl⟩), rfl, rfl, ?_, rfl, ?_, rfl,
    idle 14 4 _ _ rfl (Or.inr ⟨13, by decide, rfl⟩), rfl⟩
  · exact ((replies 8 _ rfl).1 0).mpr ⟨_, rfl, rfl⟩
  · intro id alive
    exact (always 13).2.2.1 id 1 alive ⟨_, rfl, rfl⟩

end ClientHistory

end Entitlement
