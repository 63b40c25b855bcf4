import Entitlement.Proofs.Client.ThinnedEvents

/-!
Keys do not interfere. From a history everything is deleted that is about other keys than one (`ClientHistory.only`):
their calls, the queries begun for them and the replies to these, cancellations, invalidations, and what is done with
their slots. What is left is a history of the same client, under numbers that have closed up, and it shows the same
for the key at each place (`keys_separate`). Only calls that read the rate can tell the two apart: attempts are
counted for all keys together.
-/

namespace Entitlement.ClientHistory
open History

variable {App : Type}

/-- The `n`th element stays where as many stay before it. -/
theorem getElem?_filter {α : Type} {p : α → Bool} {l : List α} {n : Nat} {a : α} (here : l[n]? = some a)
    (stays : p a = true) : (l.filter p)[(l.take n).countP p]? = some a := by
  induction l generalizing n with
  | nil => cases here
  | cons b r ih =>
    cases n with
    | zero =>
      cases here
      rw [List.filter_cons_of_pos stays]
      rfl
    | succ n =>
      have rest := ih here
      rw [List.take_succ_cons, List.countP_cons, List.filter_cons]
      split
      · exact rest
      · exact rest

theorem getElem?_of_filter {α : Type} {p : α → Bool} {l : List α} {j : Nat} {a : α}
    (left : (l.filter p)[j]? = some a) : ∃ n, l[n]? = some a ∧ p a = true ∧ (l.take n).countP p = j := by
  induction l generalizing j with
  | nil => cases left
  | cons b r ih =>
    have later {j : Nat} (left : (r.filter p)[j]? = some a) :
        ∃ n, (b :: r)[n]? = some a ∧ p a = true ∧ ((b :: r).take n).countP p = j + if p b then 1 else 0 := by
      obtain ⟨n, here, stays, rfl⟩ := ih left
      exact ⟨n + 1, here, stays, by rw [List.take_succ_cons, List.countP_cons]⟩
    rw [List.filter_cons] at left
    split at left
    · next stays =>
      cases j with
      | zero =>
        cases left
        exact ⟨0, rfl, stays, rfl⟩
      | succ j => simpa only [stays, ↓reduceIte] using later (j := j) left
    · next leaves => simpa only [leaves, Bool.false_eq_true, ↓reduceIte, Nat.add_zero] using later left

/-- Whether an event is about `k`, or about no key. -/
def keeps (h : ClientHistory App) (k : CheckKey) (e : ClientEvent App) : Bool := k.Keeps (h.labels.key? e)

/-- The history without what is about other keys than `k`. -/
def only (h : ClientHistory App) (k : CheckKey) : ClientHistory App :=
  { h with events := (h.events.filter (h.keeps k)).map (ClientEvent.renumber (h.labels.ranks k)) }

/-- How many of the first `n` events are left. -/
def place (h : ClientHistory App) (k : CheckKey) (n : Nat) : Nat := (h.events.take n).countP (h.keeps k)

variable {h : ClientHistory App} {k : CheckKey}

theorem place_succ {n : Nat} {e : ClientEvent App} (happened : h.events[n]? = some e) :
    h.place k (n + 1) = h.place k n + if h.keeps k e then 1 else 0 := by
  rw [place, List.take_add_one, happened, List.countP_append]
  simp only [Option.toList_some, List.countP_singleton, place]

theorem place_rest {n : Nat} (finished : h.events[n]? = none) : h.place k (n + 1) = h.place k n := by
  rw [place, List.take_add_one, finished, Option.toList_none, List.append_nil, place]

theorem only_happens {n : Nat} {e : ClientEvent App} (happened : h.events[n]? = some e) (keeps : h.keeps k e = true) :
    (h.only k).events[h.place k n]? = some (e.renumber (h.labels.ranks k)) := by
  rw [only, List.getElem?_map, place, getElem?_filter happened keeps]
  rfl

theorem only_happened {j : Nat} {e : ClientEvent App} (happened : (h.only k).events[j]? = some e) :
    ∃ n e', h.events[n]? = some e' ∧ h.place k n = j ∧ e = e'.renumber (h.labels.ranks k) := by
  rw [only, List.getElem?_map, Option.map_eq_some_iff] at happened
  obtain ⟨e', left, rfl⟩ := happened
  obtain ⟨n, here, _, place⟩ := getElem?_of_filter left
  exact ⟨n, e', here, place, rfl⟩

theorem start_thinned (h : ClientHistory App) (k : CheckKey) : Client.Thinned h.labels k h.start h.start := by
  rw [Client.build_ok h.built]
  exact {
    identity := rfl
    closed := rfl
    providers := rfl
    defaultTtl := rfl
    cached := rfl
    flight := rfl
    queries := fun _ _ => .none
    nextQuery := rfl
    calls := fun _ _ => .none
    nextCall := rfl
    ledger := ⟨rfl, rfl, fun _ _ => .none, rfl⟩
    sent := rfl }

theorem thinned (h : ClientHistory App) (k : CheckKey) (n : Nat) :
    Client.Thinned h.labels k (h.state n) ((h.only k).state (h.place k n)) := by
  induction n with
  | zero => exact h.start_thinned k
  | succ n ih =>
    rcases h.next n with ⟨e, happened, moved⟩ | ⟨finished, same⟩
    · have after := moved ▸ h.labels_fit (n + 1)
      rw [moved, place_succ happened]
      cases keeps : h.keeps k e with
      | true =>
        rw [if_pos rfl, state_succ (only_happens happened keeps)]
        exact ih.step (h.labels_fit n) after (of_decide_eq_true keeps)
      | false => exact ih.step_other (h.labels_fit n) after (of_decide_eq_false keeps)
    · rw [same, place_rest finished]
      exact ih

/-- A number is one call's for good. -/
theorem Calls.request {l n : Nat} {i : CallId} {request : CallRequest} {m : Moment App}
    (called : h.Calls l i request m) {x : Call} (found : (h.state n).calls.find? i = some x) :
    x.request = request := by
  obtain ⟨_, came⟩ := called.came
  exact Option.some.inj ((h.first_request found).symm.trans (h.first_request came))

/-- The calls for `k` come as before. -/
theorem Calls.only {l : Nat} {i : CallId} {request : CallRequest} {m : Moment App} (called : h.Calls l i request m)
    (own : request.key? = some k) : (h.only k).Calls (h.place k l) ((h.labels.ranks k).call i) request m := by
  obtain ⟨happened, rfl⟩ := called
  exact ⟨only_happens happened (decide_eq_true (Or.inr own)), (h.thinned k l).nextCall.symm⟩

theorem calls_of_only {j : Nat} {i' : CallId} {request : CallRequest} {m : Moment App}
    (called : (h.only k).Calls j i' request m) :
    ∃ l i, h.Calls l i request m ∧ j = h.place k l ∧ i' = (h.labels.ranks k).call i := by
  obtain ⟨happened, rfl⟩ := called
  obtain ⟨l, e, came, rfl, same⟩ := only_happened happened
  cases e with
  | call =>
    cases same
    exact ⟨l, _, ⟨came, rfl⟩, rfl, (h.thinned k l).nextCall⟩
  | _ => cases same

theorem only_phase? {l : Nat} {i : CallId} {request : CallRequest} {m : Moment App} (called : h.Calls l i request m)
    (own : request.key? = some k) (unrated : ¬ request.ReadsRate) (n : Nat) :
    ((h.only k).state (h.place k n)).phase? ((h.labels.ranks k).call i) =
      ((h.state n).phase? i).map (Phase.renumber (h.labels.ranks k)) := by
  have named : k.Keeps (h.labels.call i) := by
    obtain ⟨_, came⟩ := called.came
    exact Or.inr ((h.labels_call came).trans own)
  rcases (h.thinned k n).phase? named with ⟨absent, absent'⟩ | ⟨_, _, _, found, present, present', like⟩
  · rw [absent, absent', Option.map_none]
  · have own := called.request found
    subst own
    rw [present, present', like.eq_renumber unrated, Option.map_some]

/-- Without the events about other keys the calls for `k` go as they went, but for the rates that they read, and the
authority hears the same of `k`. -/
theorem keys_separate (h : ClientHistory App) (k : CheckKey) :
    (∀ l i request m, h.Calls l i request m → request.key? = some k →
      (h.only k).Calls (h.place k l) ((h.labels.ranks k).call i) request m ∧
      (¬ request.ReadsRate → ∀ n, ((h.only k).state (h.place k n)).phase? ((h.labels.ranks k).call i) =
        ((h.state n).phase? i).map (Phase.renumber (h.labels.ranks k)))) ∧
    (∀ j i' request m, (h.only k).Calls j i' request m →
      ∃ l i, h.Calls l i request m ∧ j = h.place k l ∧ i' = (h.labels.ranks k).call i) ∧
    ∀ n, ((h.only k).state (h.place k n)).sentFor k = (h.state n).sentFor k ∧
      ((h.only k).state (h.place k n)).slotsInUse k = (h.state n).slotsInUse k := by
  refine ⟨?_, fun _ _ _ _ called => calls_of_only called, ?_⟩
  · intro l i request m called own
    exact ⟨called.only own, only_phase? called own⟩
  · intro n
    have thinned := h.thinned k n
    refine ⟨thinned.sent, ?_⟩
    rw [Client.slotsInUse, thinned.slotKey, thinned.ledger.inUse, Client.slotsInUse]

/-! ### Two keys -/

/-- A slot of the product is taken while the query for a feature is under way, and given back before the feature is
forgotten. -/
def twoKeys : ClientHistory Unit :=
  ofEvents [.call (.acquire (.feature "export")) (atSecond 0), .call (.acquire .product) (atSecond 0), .ask 0, .ask 1,
    .queryReply 0 (.ok ⟨SlotHistory.limitedTo 1, none⟩) (atSecond 1).now, .resume 0 (atSecond 1),
    .queryReply 1 (.ok ⟨SlotHistory.limitedTo 1, none⟩) (atSecond 2).now, .resume 1 (atSecond 2),
    .invalidate (.feature "export"), .dropSlot 0, .dropSlot 1]

theorem twoKeys_separate :
    twoKeys.Calls 1 1 (.acquire .product) (atSecond 0) ∧ ¬ (CallRequest.acquire .product).ReadsRate ∧
    (twoKeys.only .product).events = [.call (.acquire .product) (atSecond 0), .ask 0,
      .queryReply 0 (.ok ⟨SlotHistory.limitedTo 1, none⟩) (atSecond 2).now, .resume 0 (atSecond 2), .dropSlot 0] ∧
    (twoKeys.only .product).Calls 0 0 (.acquire .product) (atSecond 0) ∧
    (twoKeys.state 8).phase? 1 = some (.finished (.ok (.slot (.acquired 1 ⟨"instance", .product⟩)))) ∧
    ((twoKeys.only .product).state 4).phase? 0 =
      some (.finished (.ok (.slot (.acquired 0 ⟨"instance", .product⟩)))) ∧
    ((twoKeys.only .product).state 4).slotsInUse .product = 1 := by
  have called : twoKeys.Calls 1 1 (.acquire .product) (atSecond 0) := ⟨rfl, rfl⟩
  obtain ⟨calls, _, same⟩ := keys_separate twoKeys .product
  obtain ⟨called', phases⟩ := calls 1 1 _ _ called rfl
  exact ⟨called, id, rfl, called', rfl, phases id 8, (same 8).2⟩

end Entitlement.ClientHistory
