import Fleet.Proofs.Readiness

/-! Every pending action has one of three endings in a dispatch cycle: it is removed, it
is written back with its first sending stamped, or its row is left alone. Which one is a
function of the action, the time, the rejection, whether it was held back and whether the
receiver took it. Together with the counters and the report this is all a cycle does. -/
namespace Fleet
namespace Dispatch

inductive Ending where
  | removed
  | stamped
  | left
  deriving DecidableEq, Repr

/-- An action that has expired is gone whether due or not; one that is not due is left;
only then is it verified, sent unless it is held back, and settled. -/
def ending (d : Delivery) (now : Nat) (rejection : Option Rejection) (held took : Bool) : Ending :=
  if d.sentOn ≠ 0 ∧ after d.sentOn d.keepAlive ≤ now then .removed
  else if now < d.sendOn then .left
  else if d.skipVerification = false ∧ rejection.isSome then .removed
  else if held then .left
  else if took = false then .left
  else if d.keepAlive = 0 then .removed
  else .stamped

def restamped (d : Delivery) (now : Nat) : Delivery :=
  { d with sentOn := if d.sentOn = 0 then now else d.sentOn }

def Ending.row {α : Type} (e : Ending) (row : Row α) (rewritten : α) : Option (Row α) :=
  match e with
  | .removed => none
  | .stamped => some (.held rewritten)
  | .left => some row

namespace Sight
variable (g : Sight) (now : Nat) (accepts : Message → Bool)

def startEnding (held : List Start) (s : Start) : Ending :=
  ending s.delivery now (s.rejection? g.snapshot) (s ∈ held) (accepts (startMessage g.snapshot s))

def stopEnding (s : Stop) : Ending :=
  ending s.delivery now (s.rejection? g.snapshot) false (accepts (stopMessage g.snapshot s))

def attemptsOn (starts : List Start) : List (Message × Bool) :=
  attempts accepts (startMessage g.snapshot) starts ++
    attempts accepts (stopMessage g.snapshot) (g.readyStops now)

def countersOn (starts : List Start) : List String :=
  (starts.filter fun a => accepts (startMessage g.snapshot a)).map (·.reason.counter) ++
    ((g.readyStops now).filter fun a => accepts (stopMessage g.snapshot a)).map (·.reason.counter)

end Sight

variable {policy : Policy} {now : Nat} {accepts : Message → Bool} {w w' : World} {g : Sight}

theorem attemptedOn (g : Sight) (policy : Policy) (now : Nat) (accepts : Message → Bool) :
    g.attempted policy now accepts = g.attemptsOn now accepts (g.tried policy now) := by
  rw [Sight.attempted, dueStopsReady]
  rfl

theorem raisedOn (g : Sight) (policy : Policy) (now : Nat) (accepts : Message → Bool) :
    g.raised policy now accepts = g.countersOn now accepts (g.tried policy now) := by
  rw [Sight.countersOn, ← dueStopsReady]
  rfl

theorem markSentRestamped (d : Delivery) (now : Nat) : d.markSent now = restamped d now := by
  unfold Delivery.markSent Delivery.isSent restamped
  by_cases unsent : d.sentOn = 0
  · simp [unsent]
  · simp [unsent]

def Fate.ending (tried took last : Bool) : Fate → Ending
  | .expired => .removed
  | .waiting => .left
  | .rejected => .removed
  | .due => if tried && took then if last then .removed else .stamped else .left

theorem endingOfFate (d : Delivery) (now : Nat) (rejection : Option Rejection) (held took : Bool) :
    ending d now rejection held took =
      (fate d now rejection).ending (!held) took d.fireAndForget := by
  unfold ending fate
  by_cases expired : d.sentOn ≠ 0 ∧ after d.sentOn d.keepAlive ≤ now
  · have : d.isExpired now = true := by
      simpa [Delivery.isExpired, Delivery.isSent] using expired
    rw [if_pos expired, if_pos this, Fate.ending]
  · have : ¬ d.isExpired now = true := by
      simpa [Delivery.isExpired, Delivery.isSent] using expired
    rw [if_neg expired, if_neg this]
    by_cases early : now < d.sendOn
    · have : (!d.isDue now) = true := by simpa [Delivery.isDue] using early
      rw [if_pos early, if_pos this, Fate.ending]
    · have : ¬ (!d.isDue now) = true := by simpa [Delivery.isDue] using early
      rw [if_neg early, if_neg this]
      by_cases refused : d.skipVerification = false ∧ rejection.isSome
      · have : (!d.skipVerification && rejection.isSome) = true := by simpa using refused
        rw [if_pos refused, if_pos this, Fate.ending]
      · have : ¬ (!d.skipVerification && rejection.isSome) = true := by simpa using refused
        rw [if_neg refused, if_neg this, Fate.ending]
        cases held <;> cases took <;> simp [Delivery.fireAndForget]

section
variable {α : Type} [DecidableEq α] {l tried : List α} {f : α → Fate} {took last : α → Bool}

theorem memRemoved (due : ∀ a ∈ tried, f a = .due) {a : α} (member : a ∈ l) :
    a ∈ l.filter (f · = .expired) ++ l.filter (f · = .rejected) ++ (tried.filter took).filter last ↔
      (f a).ending (a ∈ tried) (took a) (last a) = .removed := by
  have isDue := due a
  simp only [List.mem_append, List.mem_filter, member, true_and, decide_eq_true_eq]
  cases h : f a <;> simp only [h, Fate.ending] at isDue ⊢ <;> grind

theorem memStamped (due : ∀ a ∈ tried, f a = .due) {a : α} :
    a ∈ (tried.filter took).filter (fun a => !last a) ↔
      (f a).ending (a ∈ tried) (took a) (last a) = .stamped := by
  have isDue := due a
  simp only [List.mem_filter]
  cases h : f a <;> simp only [h, Fate.ending] at isDue ⊢ <;> grind

end

theorem startEndingTried (distinct : g.starts.Nodup) {s : Start} (member : s ∈ g.starts) :
    g.startEnding now accepts (g.heldBack policy now) s = (startFate g.snapshot now s).ending
      (s ∈ g.tried policy now) (accepts (startMessage g.snapshot s)) s.delivery.fireAndForget := by
  rw [Sight.startEnding, endingOfFate]
  change (startFate g.snapshot now s).ending _ _ _ = _
  cases h : startFate g.snapshot now s with
  | due =>
    have due : s ∈ g.tried policy now ++ g.heldBack policy now := by
      rw [triedOrHeld, Sight.dueStarts, (arrangePerm _ _).mem_iff]
      simp [Sight.startsWith, member, h]
    by_cases held : s ∈ g.heldBack policy now
    · simp [held, heldNotTried distinct held]
    · simp [held, (List.mem_append.mp due).resolve_right held]
  | _ => rfl

theorem memDoneStarts (distinct : g.starts.Nodup) {s : Start} (member : s ∈ g.starts) :
    s ∈ (g.received policy now accepts).doneStarts g now ↔
      g.startEnding now accepts (g.heldBack policy now) s = .removed := by
  rw [startEndingTried distinct member]
  exact memRemoved (fun a h => (memTried h).2) member

theorem memKeptStarts (distinct : g.starts.Nodup) {s : Start} (member : s ∈ g.starts) :
    s ∈ ((g.received policy now accepts).starts.filter fun s => !s.delivery.fireAndForget) ↔
      g.startEnding now accepts (g.heldBack policy now) s = .stamped := by
  rw [startEndingTried distinct member]
  exact memStamped (fun a h => (memTried h).2)

theorem stopEndingTried {s : Stop} (member : s ∈ g.stops) :
    g.stopEnding now accepts s = (stopFate g.snapshot now s).ending (s ∈ g.dueStops now)
      (accepts (stopMessage g.snapshot s)) s.delivery.fireAndForget := by
  rw [Sight.stopEnding, endingOfFate]
  change (stopFate g.snapshot now s).ending _ _ _ = _
  cases h : stopFate g.snapshot now s <;> simp [Fate.ending, memDueStops, member, h]

theorem memDoneStops {s : Stop} (member : s ∈ g.stops) :
    s ∈ (g.received policy now accepts).doneStops g now ↔
      g.stopEnding now accepts s = .removed := by
  rw [stopEndingTried member]
  exact memRemoved (fun a h => (memDueStops.mp h).2) member

theorem memKeptStops {s : Stop} (member : s ∈ g.stops) :
    s ∈ ((g.received policy now accepts).stops.filter fun s => !s.delivery.fireAndForget) ↔
      g.stopEnding now accepts s = .stamped := by
  rw [stopEndingTried member]
  exact memStamped (fun a h => (memDueStops.mp h).2)

theorem fatesTotal {α : Type} (f : α → Fate) (l : List α) :
    (l.filter (f · = .expired)).length + (l.filter (f · = .rejected)).length +
      (l.filter (f · = .waiting)).length + (l.filter (f · = .due)).length = l.length := by
  induction l with
  | nil => rfl
  | cons a l ih => cases h : f a <;> simp [h] <;> omega

theorem answeredSplit (accepts : Message → Bool) (message : α → Message) (l : List α) :
    (answered accepts message l).taken.length + (answered accepts message l).failed = l.length := by
  rw [answered, ← List.countP_eq_length_filter,
    List.length_eq_countP_add_countP fun a => accepts (message a)]
  simp

theorem answeredFailed (accepts : Message → Bool) (message : α → Message) (l : List α) :
    (answered accepts message l).failed = (attempts accepts message l).countP (!·.2) := by
  rw [attempts, List.countP_map]
  rfl

theorem attemptedLength : (g.attempted policy now accepts).length =
    (g.tried policy now).length + (g.dueStops now).length := by
  simp [Sight.attempted, attempts]

theorem receivedFailed : (g.received policy now accepts).failed =
    (g.attempted policy now accepts).countP (!·.2) := by
  rw [Sight.received, answeredFailed, answeredFailed, Sight.attempted, List.countP_append]

theorem concludeRefused (refused : 0 < (g.attempted policy now accepts).countP (!·.2)) :
    conclude policy now g (g.received policy now accepts) =
      .error (.unsent ((g.attempted policy now accepts).countP (!·.2))
        (g.attempted policy now accepts).length) := by
  rw [conclude, receivedFailed, attemptedLength, if_pos refused]

theorem concludeTaken (all : (g.attempted policy now accepts).countP (!·.2) = 0) :
    ∃ report, conclude policy now g (g.received policy now accepts) = .ok report ∧
      report.startsSent = (g.tried policy now).length ∧
      report.stopsSent = (g.dueStops now).length ∧
      report.throttled = (g.heldBack policy now).length ∧
      report.failed = 0 ∧
      report.startsSent + report.stopsSent + report.expired + report.rejected + report.waiting +
        report.throttled + report.failed = g.starts.length + g.stops.length := by
  have failed : (g.received policy now accepts).failed = 0 := receivedFailed.trans all
  have starts := answeredSplit accepts (startMessage g.snapshot) (g.tried policy now)
  have stops := answeredSplit accepts (stopMessage g.snapshot) (g.dueStops now)
  have startsTotal := fatesTotal (startFate g.snapshot now) g.starts
  have stopsTotal := fatesTotal (stopFate g.snapshot now) g.stops
  have due : (g.dueStarts now).length = (g.startsWith now .due).length :=
    (arrangePerm sendsBefore _).length_eq
  rw [← triedOrHeld g policy now, List.length_append] at due
  refine ⟨_, if_neg (by omega), ?_⟩
  simp only [Sight.received, Sight.startsWith, Sight.stopsWith, Sight.dueStops] at *
  exact ⟨by omega, by omega, trivial, by omega, by omega⟩

theorem countedTaken {α ρ : Type} [DecidableEq ρ] (reason : α → ρ) {counter : ρ → String}
    (apart : ∀ a b, counter a = counter b → a = b) (message : α → Message) (l : List α) (r : ρ) :
    ((answered accepts message l).taken.map fun a => counter (reason a)).count (counter r) =
      l.countP fun a => reason a = r && accepts (message a) := by
  rw [List.count, List.countP_map, answered, List.countP_filter]
  refine List.countP_congr fun a _ => ?_
  have same : counter (reason a) = counter r ↔ reason a = r := ⟨apart _ _, congrArg counter⟩
  simp [same]

theorem startCounterApart (a b : StartReason) (same : a.counter = b.counter) : a = b := by
  revert same
  cases a <;> cases b <;> decide

theorem stopCounterApart (a b : StopReason) (same : a.counter = b.counter) : a = b := by
  revert same
  cases a <;> cases b <;> decide

theorem countersApart (a : StartReason) (b : StopReason) : a.counter ≠ b.counter := by
  cases a <;> cases b <;> decide

theorem countedStarts (reason : StartReason) :
    (g.raised policy now accepts).count reason.counter = (g.tried policy now).countP fun s =>
      s.reason = reason && accepts (startMessage g.snapshot s) := by
  have other : ((g.received policy now accepts).stops.map (·.reason.counter)).count reason.counter = 0 := by
    refine List.count_eq_zero.mpr fun member => ?_
    obtain ⟨s, _, same⟩ := List.mem_map.mp member
    exact countersApart reason s.reason same.symm
  rw [Sight.raised, List.count_append, other, Nat.add_zero]
  exact countedTaken Start.reason startCounterApart _ _ reason

theorem countedStops (reason : StopReason) :
    (g.raised policy now accepts).count reason.counter = (g.dueStops now).countP fun s =>
      s.reason = reason && accepts (stopMessage g.snapshot s) := by
  have other : ((g.received policy now accepts).starts.map (·.reason.counter)).count reason.counter = 0 := by
    refine List.count_eq_zero.mpr fun member => ?_
    obtain ⟨s, _, same⟩ := List.mem_map.mp member
    exact countersApart s.reason reason same
  rw [Sight.raised, List.count_append, other, Nat.zero_add]
  exact countedTaken Stop.reason stopCounterApart _ _ reason

theorem attemptedDistinct (seen : Seen policy now w.store g)
    (ownStarts : Rows.Own Start.key w.store.starts) (ownStops : Rows.Own Stop.key w.store.stops) :
    ((g.attempted policy now accepts).map (·.1)).Nodup := by
  have starts := Rows.ownScanDistinct ownStarts seen.starts
  have stops := Rows.ownScanDistinct ownStops seen.stops
  simp only [Sight.attempted, attempts, List.map_append, List.map_map, Function.comp_def]
  refine List.nodup_append.mpr ⟨?_, ?_, ?_⟩
  · have tried : (g.tried policy now).Nodup := by
      refine List.Nodup.sublist (List.take_sublist _ _) ?_
      exact (arrangePerm sendsBefore _).nodup_iff.mpr ((List.Nodup.of_map _ starts).filter _)
    refine tried.map_on fun a ha b hb same => ?_
    refine List.inj_on_of_nodup_map starts (memTried ha).1 (memTried hb).1 ?_
    simp only [startMessage, Message.start.injEq, StartMessage.ofStart, StartMessage.mk.injEq] at same
    rw [Start.key, Start.key, same.1, same.2.1]
  · refine ((List.Nodup.of_map _ stops).filter _).map_on fun a ha b hb same => ?_
    refine List.inj_on_of_nodup_map stops (memDueStops.mp ha).1 (memDueStops.mp hb).1 ?_
    simp only [stopMessage, Message.stop.injEq, StopMessage.ofStop, StopMessage.mk.injEq] at same
    exact same.2.2.1
  · intro m inStarts n inStops same
    obtain ⟨a, _, rfl⟩ := List.mem_map.mp inStarts
    obtain ⟨b, _, rfl⟩ := List.mem_map.mp inStops
    simp [startMessage, stopMessage] at same

theorem receivedTried : (g.received policy now accepts).starts ⊆ g.tried policy now :=
  fun _ member => List.mem_of_mem_filter member

theorem receivedDue : (g.received policy now accepts).stops ⊆ g.dueStops now :=
  fun _ member => List.mem_of_mem_filter member

theorem receivedStartsRead {a : Start} (took : a ∈ (g.received policy now accepts).starts) :
    a ∈ g.starts := (memTried (receivedTried took)).1

theorem receivedStopsRead {a : Stop} (took : a ∈ (g.received policy now accepts).stops) :
    a ∈ g.stops := (memDueStops.mp (receivedDue took)).1

theorem settledStart (scan : w.store.starts.scan = .ok g.starts)
    (own : Rows.Own Start.key w.store.starts) {k : String} {row : Row Start} {s : Start}
    (found : w.store.starts.get? k = some row) (reads : row.read = .ok s) :
    (settled now g (g.received policy now accepts) w.store).starts.get? k =
      (g.startEnding now accepts (g.heldBack policy now) s).row row
        { s with delivery := restamped s.delivery now } := by
  have member : s ∈ g.starts := (Rows.memScan scan).mpr ⟨k, row, found, reads⟩
  have distinct := (Rows.ownScanDistinct own scan).of_map
  refine (Rows.getRewritten own scan (fun a h => doneStartsRead receivedTried h)
    (fun a h => receivedStartsRead (List.mem_of_mem_filter h)) (f := stampStart now) (fun _ => rfl)
    found reads).trans ?_
  simp only [memKeptStarts distinct member, memDoneStarts distinct member, stampStart,
    markSentRestamped]
  cases g.startEnding now accepts (g.heldBack policy now) s <;> rfl

theorem settledStop (scan : w.store.stops.scan = .ok g.stops)
    (own : Rows.Own Stop.key w.store.stops) {k : String} {row : Row Stop} {s : Stop}
    (found : w.store.stops.get? k = some row) (reads : row.read = .ok s) :
    (settled now g (g.received policy now accepts) w.store).stops.get? k =
      (g.stopEnding now accepts s).row row { s with delivery := restamped s.delivery now } := by
  have member : s ∈ g.stops := (Rows.memScan scan).mpr ⟨k, row, found, reads⟩
  refine (Rows.getRewritten own scan (fun a h => doneStopsRead receivedDue h)
    (fun a h => receivedStopsRead (List.mem_of_mem_filter h)) (f := stampStop now) (fun _ => rfl)
    found reads).trans ?_
  simp only [memKeptStops member, memDoneStops member, stampStop, markSentRestamped]
  cases g.stopEnding now accepts s <;> rfl

structure Outcome (now : Nat) (accepts : Message → Bool) (g : Sight) (tried held : List Start)
    (w : World) (r : Except Overflow (Except CycleError Report) × World) : Prop where
  starts : ∀ k row s, w.store.starts.get? k = some row → row.read = .ok s →
    r.2.store.starts.get? k = (g.startEnding now accepts held s).row row
      { s with delivery := restamped s.delivery now }
  stops : ∀ k row s, w.store.stops.get? k = some row → row.read = .ok s →
    r.2.store.stops.get? k = (g.stopEnding now accepts s).row row
      { s with delivery := restamped s.delivery now }
  noOtherStart : ∀ k, w.store.starts.get? k = none → r.2.store.starts.get? k = none
  noOtherStop : ∀ k, w.store.stops.get? k = none → r.2.store.stops.get? k = none
  frame : r.2.store = { w.store with
    starts := r.2.store.starts, stops := r.2.store.stops, metrics := r.2.store.metrics }
  startCounts : ∀ reason : StartReason, r.2.store.tally reason.counter =
    w.store.tally reason.counter + tried.countP fun s =>
      s.reason = reason && accepts (startMessage g.snapshot s)
  stopCounts : ∀ reason : StopReason, r.2.store.tally reason.counter =
    w.store.tally reason.counter + (g.readyStops now).countP fun s =>
      s.reason = reason && accepts (stopMessage g.snapshot s)
  otherCounts : ∀ m, (∀ reason : StartReason, m ≠ reason.counter) →
    (∀ reason : StopReason, m ≠ reason.counter) →
      r.2.store.metrics.get? m = w.store.metrics.get? m
  sent : r.2.sent = w.sent ++ g.attemptsOn now accepts tried
  distinct : ((g.attemptsOn now accepts tried).map (·.1)).Nodup
  allTaken : (∀ a ∈ g.attemptsOn now accepts tried, a.2 = true) → ∃ report, r.1 = .ok (.ok report) ∧
    report.startsSent = tried.length ∧ report.stopsSent = (g.readyStops now).length ∧
    report.throttled = held.length ∧ report.failed = 0 ∧
    report.startsSent + report.stopsSent + report.expired + report.rejected + report.waiting +
      report.throttled + report.failed = g.starts.length + g.stops.length
  someRefused : (∃ a ∈ g.attemptsOn now accepts tried, a.2 = false) →
    r.1 = .ok (.error (.unsent ((g.attemptsOn now accepts tried).countP (!·.2))
      (g.attemptsOn now accepts tried).length))

theorem triedOutcome (seen : Seen policy now w.store g)
    (ownStarts : Rows.Own Start.key w.store.starts) (ownStops : Rows.Own Stop.key w.store.stops)
    (room : Room w (g.countersOn now accepts (g.tried policy now))) :
    Outcome now accepts g (g.tried policy now) (g.heldBack policy now) w
      (dispatch policy now (.taking accepts) w) := by
  rw [← raisedOn] at room
  obtain ⟨t, w', run⟩ := sendRoom room
  obtain ⟨rfl, sent, counted⟩ := sendOk run
  rw [dispatchSent seen run]
  -- The store after the sending differs from the one that was read in its counters only.
  obtain ⟨store, sent'⟩ := w'
  obtain ⟨metrics, rfl⟩ : ∃ metrics, store = { w.store with metrics := metrics } :=
    ⟨_, counted.rest⟩
  have refusals : (∀ a ∈ g.attempted policy now accepts, a.2 = true) ↔
      (g.attempted policy now accepts).countP (!·.2) = 0 := by simp
  refine {
    starts := fun k row s => settledStart seen.starts ownStarts
    stops := fun k row s => settledStop seen.stops ownStops
    noOtherStart := fun k => Rows.getRewrittenNone ownStarts seen.starts
      (fun a h => receivedStartsRead (List.mem_of_mem_filter h)) (f := stampStart now) (fun _ => rfl)
    noOtherStop := fun k => Rows.getRewrittenNone ownStops seen.stops
      (fun a h => receivedStopsRead (List.mem_of_mem_filter h)) (f := stampStop now) (fun _ => rfl)
    frame := rfl
    startCounts := fun reason => (counted.tally _).trans (by rw [countedStarts])
    stopCounts := fun reason => (counted.tally _).trans (by rw [countedStops, dueStopsReady])
    otherCounts := fun m starts stops => (counted.metrics m).trans (if_neg ?_)
    sent := attemptedOn g policy now accepts ▸ sent
    distinct := attemptedOn g policy now accepts ▸ attemptedDistinct seen ownStarts ownStops
    allTaken := fun all => ?_
    someRefused := fun some => ?_ }
  · simp only [Sight.raised, List.mem_append, List.mem_map]
    rintro (⟨s, _, same⟩ | ⟨s, _, same⟩)
    · exact starts s.reason same.symm
    · exact stops s.reason same.symm
  · rw [← attemptedOn] at all
    obtain ⟨report, concluded, startsSent, stopsSent, rest⟩ := concludeTaken (refusals.mp all)
    exact ⟨report, congrArg _ concluded, startsSent, dueStopsReady g now ▸ stopsSent, rest⟩
  · rw [← attemptedOn] at some ⊢
    obtain ⟨a, member, refused⟩ := some
    exact congrArg _ (concludeRefused (List.countP_pos_iff.mpr ⟨a, member, by simp [refused]⟩))

/-- Records that can be read and stand under their own keys, and a fresh store: then the ready
starts are tried in their order up to the limit, and where the counters have room for what
the receiver takes, so that no raise meets a full one, this is what a cycle does. -/
theorem dispatchOutcome (seen : Seen policy now w.store g)
    (ownStarts : Rows.Own Start.key w.store.starts) (ownStops : Rows.Own Stop.key w.store.stops) :
    ∃ tried held, Selects policy now g tried held ∧
      (Room w (g.countersOn now accepts tried) →
        Outcome now accepts g tried held w (dispatch policy now (.taking accepts) w)) :=
  ⟨_, _, selectsTried policy now g, triedOutcome seen ownStarts ownStops⟩

def backlogStart (index sendOn : Nat) : Start :=
  ⟨⟨"web", "v1"⟩, index, .missing, .ofNat 1, ⟨index + 1, sendOn, 0, 0, false⟩⟩

def backlogStop : Stop := ⟨⟨"web", "v1"⟩, 7, "old", .extra, ⟨9, 900, 0, 30, false⟩⟩

def backlogSight : Sight where
  starts := [backlogStart 0 950, backlogStart 1 940, backlogStart 2 1030]
  stops := [backlogStop]
  snapshot := .ofState [⟨⟨"web", "v1"⟩, 3, .started, .staged, 0⟩] [⟨⟨"web", "v1"⟩, 7, "old", .running, 1000⟩]

def backlog : Store :=
  let desired := (Store.empty (.ofSecs 30)).syncDesired [⟨⟨"web", "v1"⟩, 3, .started, .staged, 0⟩] 1000
  let actual := desired.saveActual [⟨⟨"web", "v1"⟩, 7, "old", .running, 1000⟩] 1000
  (actual.saveStarts backlogSight.starts).saveStops backlogSight.stops

theorem backlogSeen : Seen { sendLimit := 1 } 1000 backlog backlogSight where
  fresh := ⟨by decide, by decide⟩
  starts := by decide +kernel
  stops := by decide +kernel
  shows := ⟨_, _, rfl, rfl, rfl⟩

theorem backlogSelected {tried held : List Start}
    (selects : Selects { sendLimit := 1 } 1000 backlogSight tried held) :
    tried = [backlogStart 1 940] ∧ held = [backlogStart 0 950] := by
  obtain ⟨rfl, left⟩ := selectsUnique (by decide +kernel) selects (selectsTried _ _ _)
  have back : backlogSight.heldBack { sendLimit := 1 } 1000 = [backlogStart 0 950] := by
    decide +kernel
  exact ⟨by decide +kernel, List.perm_singleton.mp (back ▸ left)⟩

theorem backlogOutcome :
    let r := dispatch { sendLimit := 1 } 1000 (.taking fun _ => true) ⟨backlog, []⟩
    Seen { sendLimit := 1 } 1000 backlog backlogSight ∧
    Rows.Own Start.key backlog.starts ∧ Rows.Own Stop.key backlog.stops ∧
    (∃ tried held, Selects { sendLimit := 1 } 1000 backlogSight tried held ∧
      tried = [backlogStart 1 940] ∧ held = [backlogStart 0 950] ∧
      Outcome 1000 (fun _ => true) backlogSight tried held ⟨backlog, []⟩ r) ∧
    r.1 = .ok (.ok ⟨1, 1, 0, 0, 1, 1, 0⟩) ∧
    r.2.sent = [(.start ⟨⟨"web", "v1"⟩, 1, 2, .ofList [(7, 1)]⟩, true),
      (.stop ⟨⟨"web", "v1"⟩, 7, "old", false, 9, .ofList [(7, 1)]⟩, true)] ∧
    r.2.store.starts.scan = .ok [backlogStart 0 950, backlogStart 2 1030] ∧
    r.2.store.stops.scan = .ok [{ backlogStop with delivery := ⟨9, 900, 1000, 30, false⟩ }] := by
  intro r
  have ownStarts : Rows.Own Start.key backlog.starts := Rows.ownPut Start.settleKey Rows.ownEmpty _
  have ownStops : Rows.Own Stop.key backlog.stops := Rows.ownPut Stop.settleKey Rows.ownEmpty _
  obtain ⟨tried, held, selects, outcome⟩ : ∃ tried held,
      Selects { sendLimit := 1 } 1000 backlogSight tried held ∧
        (Room ⟨backlog, []⟩ (backlogSight.countersOn 1000 (fun _ => true) tried) →
          Outcome 1000 (fun _ => true) backlogSight tried held ⟨backlog, []⟩ r) :=
    dispatchOutcome backlogSeen ownStarts ownStops
  obtain ⟨rfl, rfl⟩ := backlogSelected selects
  have room : Room ⟨backlog, []⟩
      (backlogSight.countersOn 1000 (fun _ => true) [backlogStart 1 940]) := by
    intro m
    have two : (backlogSight.countersOn 1000 (fun _ => true) [backlogStart 1 940]).length = 2 := by
      decide +kernel
    have few := List.count_le_length (a := m)
      (l := backlogSight.countersOn 1000 (fun _ => true) [backlogStart 1 940])
    have unraised : backlog.tally m = 0 := rfl
    simp only [Bounds.instant]
    omega
  refine ⟨backlogSeen, ownStarts, ownStops, ⟨_, _, selects, rfl, rfl, outcome room⟩, ?_, ?_, ?_, ?_⟩ <;>
    decide +kernel

end Dispatch
end Fleet
