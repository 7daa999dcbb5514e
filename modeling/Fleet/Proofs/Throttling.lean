import Fleet.Proofs.EarlyEnds
import Fleet.Proofs.Sendings

/-! Which of the pending starts a dispatch cycle tries to send when there are more of them
than its limit. Those that are ready come in an order: first by priority, then by when they
are due, then by message id. As many as the limit allows are tried from the front, the rest
wait in the store as they are, and every ready stop is tried whatever the limit. -/
namespace Fleet

namespace Dispatch
variable {policy : Policy} {now : Nat} {s : Surroundings} {w w' : World} {g : Sight} {t : Sent}

def sendings (calls : List Call) : List Message := calls.filterMap Call.message?

theorem sendingsAppend (a b : List Call) : sendings (a ++ b) = sendings a ++ sendings b :=
  List.filterMap_append

theorem sendingsNone {α : Type} {p : Procedure α} (only : p.Only fun c => c.message? = none) :
    sendings (p.calls s w) = [] :=
  List.filterMap_eq_nil_iff.mpr (Procedure.onlyCalls only w)

theorem deliverSendings (m : Message) (counter : String) (s : Surroundings) (w : World) :
    sendings ((deliver m counter).calls s w) = [m] := by
  rw [deliver, Procedure.calls]
  refine congrArg (m :: ·) ?_
  split
  · rfl
  · rename_i answer v _
    rcases answer with e | (_ | _)
    · rfl
    · rfl
    · rw [Procedure.calls]
      split <;> rfl

section
variable {α : Type} {message : α → Message} {counter : α → String}

structure Tries {β : Type} (s : Surroundings) (w : World) (p : Procedure β) (l : List Message) : Prop where
  first : sendings (p.calls s w) <+: l
  all : ∀ b, (p.run s w).1 = .ok b → sendings (p.calls s w) = l

theorem triesBind {β γ : Type} {p : Procedure β} {f : β → Procedure γ} {l m : List Message}
    (one : Tries s w p l) (two : ∀ b v, Tries s v (f b) m) : Tries s w (p.bind f) (l ++ m) := by
  have calls := Procedure.callsBind (s := s) p f w
  have run := Procedure.runBind s p f w
  rcases ended : p.run s w with ⟨(o | b), v⟩ <;> rw [ended] at calls run
  · refine ⟨?_, fun b ok => ?_⟩
    · rw [calls, List.append_nil]
      exact one.first.trans (List.prefix_append _ _)
    · rw [run] at ok
      cases ok
  · have whole := one.all b (by rw [ended])
    refine ⟨?_, fun c ok => ?_⟩
    · rw [calls, sendingsAppend, whole]
      exact (List.prefix_append_right_inj _).mpr (two b v).first
    · rw [run] at ok
      rw [calls, sendingsAppend, whole, (two b v).all c ok]

theorem triesNothing {β : Type} {p : Procedure β} (only : p.Only fun c => c.message? = none) :
    Tries s w p [] := by
  have none : sendings (p.calls s w) = [] := sendingsNone only
  exact ⟨none ▸ List.nil_prefix, fun _ _ => none⟩

theorem deliverTries (m : Message) (counter : String) (w : World) : Tries s w (deliver m counter) [m] := by
  have sent := deliverSendings m counter s w
  exact ⟨sent ▸ List.prefix_rfl, fun _ _ => sent⟩

theorem deliverAllTries (l : List α) (w : World) :
    Tries s w (deliverAll message counter l) (l.map message) := by
  induction l generalizing w with
  | nil => exact triesNothing trivial
  | cons a rest ih =>
    refine triesBind (l := [message a]) (deliverTries _ _ w) fun took v => ?_
    refine (List.append_nil (rest.map message)) ▸ triesBind (ih v) fun others u => ?_
    exact triesNothing trivial

end

theorem sendTries (policy : Policy) (now : Nat) (g : Sight) (w : World) :
    Tries s w (send policy now g) (g.messages policy now) := by
  refine triesBind (deliverAllTries _ w) fun starts v => ?_
  refine (List.append_nil ((g.dueStops now).map _)) ▸ triesBind (deliverAllTries _ v) fun stops u => ?_
  exact triesNothing trivial

def Answers {β : Type} (s : Surroundings) (w : World) (p : Procedure β) (counters : List String) : Prop :=
  ∃ b w', p.run s w = (.ok b, w') ∧ ∀ m, w'.store.tally m ≤ w.store.tally m + counters.count m

theorem deliverAnswers (m : Message) {counter : String} (room : Room w [counter]) :
    Answers s w (deliver m counter) [counter] := by
  have delivers := deliverDelivers s m counter w
  rcases ended : (deliver m counter).run s w with ⟨r, w'⟩
  rw [ended] at delivers
  cases delivers with
  | refused => exact ⟨false, _, ended, fun j => Nat.le_add_right _ _⟩
  | rejected => exact ⟨false, _, ended, fun j => Nat.le_add_right _ _⟩
  | uncounted => exact ⟨true, _, ended, fun j => Nat.le_add_right _ _⟩
  | counted => exact ⟨true, _, ended, fun j => ((Store.countedOnce _ _).tally j).le⟩
  | full served takes full =>
    have fits := room counter
    rw [List.count_singleton_self] at fits
    exact absurd fits full

theorem answersBind {β γ : Type} {p : Procedure β} {f : β → Procedure γ} {l m : List String}
    (room : Room w (l ++ m)) (one : Room w l → Answers s w p l)
    (two : ∀ b v, Room v m → Answers s v (f b) m) : Answers s w (p.bind f) (l ++ m) := by
  simp only [Room, List.count_append] at room
  obtain ⟨b, v, run, raised⟩ := one fun j => by have := room j; omega
  obtain ⟨c, u, run', raised'⟩ := two b v fun j => by have := room j; have := raised j; omega
  refine ⟨c, u, ?_, fun j => ?_⟩
  · rw [Procedure.runBind, run]
    exact run'
  · have := raised j
    have := raised' j
    rw [List.count_append]
    omega

theorem answersDone {β : Type} (b : β) : Answers s w (.done b) [] :=
  ⟨b, w, rfl, fun _ => Nat.le_add_right _ _⟩

theorem deliverAllAnswers {α : Type} {message : α → Message} {counter : α → String} (l : List α)
    (room : Room w (l.map counter)) :
    Answers s w (deliverAll message counter l) (l.map counter) := by
  induction l generalizing w with
  | nil => exact answersDone _
  | cons a rest ih =>
    refine answersBind (l := [counter a]) room (deliverAnswers _) fun took v room => ?_
    rw [← List.append_nil (rest.map counter)] at room ⊢
    exact answersBind room ih fun others u _ => answersDone _

namespace Sight

def counters (g : Sight) (policy : Policy) (now : Nat) : List String :=
  (g.tried policy now).map (·.reason.counter) ++ (g.readyStops now).map (·.reason.counter)

end Sight

theorem sendAnswers (room : Room w (g.counters policy now)) :
    Answers s w (send policy now g) (g.counters policy now) := by
  rw [Sight.counters, ← dueStopsReady] at room ⊢
  refine answersBind room (deliverAllAnswers _) fun starts v room => ?_
  rw [← List.append_nil ((g.dueStops now).map _)] at room ⊢
  exact answersBind room (deliverAllAnswers _) fun stops u _ => answersDone _

theorem lookOpen (looked : (look policy now).run.run s w = (.ok (.ok g), w')) : Open s := by
  obtain ⟨_, _, fresh, rest⟩ := Cycle.okBind.mp looked
  obtain ⟨_, _, starts, rest⟩ := Cycle.okBind.mp rest
  obtain ⟨_, _, stops, rest⟩ := Cycle.okBind.mp rest
  obtain ⟨_, _, shown, _⟩ := Cycle.okBind.mp rest
  obtain ⟨desired, actual⟩ := Cycle.snapshotOpen shown
  exact ⟨Cycle.freshOpen fresh, (Cycle.okRead.mp starts).1, (Cycle.okRead.mp stops).1, desired, actual⟩

def tries (policy : Policy) (now : Nat) (s : Surroundings) (w : World) : List Message :=
  sendings ((cycle policy now).run.calls s w)

theorem dispatchRun (policy : Policy) (now : Nat) (s : Surroundings) (w : World) :
    dispatch policy now s w = (cycle policy now).run.run s w := by
  have only : (cycle policy now).run.Only fun c => c.decision? = none :=
    Cycle.onlyBind (lookOnly fun _ _ => id) fun g =>
      onlyAfterLook policy now g _ (fun _ _ => rfl) fun _ _ single => single
  unfold dispatch Procedure.runIn
  rw [Procedure.splitOnly only, ite_self]

theorem dispatchEnds (policy : Policy) (now : Nat) (s : Surroundings) (w : World) :
    Ends policy now s w (dispatch policy now s w) :=
  dispatchRun policy now s w ▸ cycleEnds policy now s w

theorem afterLookTries (policy : Policy) (now : Nat) (g : Sight) (s : Surroundings) (w : World) :
    Tries s w (afterLook policy now g).run (g.messages policy now) := by
  have lifted : Tries s w (ExceptT.lift (send policy now g) : Cycle Sent).run
      (g.messages policy now ++ []) :=
    triesBind (sendTries policy now g w) fun _ _ => triesNothing trivial
  rw [List.append_nil] at lifted
  rw [← List.append_nil (g.messages policy now)]
  refine triesBind (f := ExceptT.bindCont _) lifted fun r v => triesNothing ?_
  cases r with
  | error e => trivial
  | ok t => exact Cycle.onlyBind (onlySettle now g t fun _ silent _ => silent) fun _ => trivial

theorem afterLookAnswers (room : Room w (g.counters policy now)) :
    ∃ answer, ((afterLook policy now g).run.run s w).1 = .ok answer := by
  obtain ⟨t, v, run, _⟩ := sendAnswers (s := s) room
  have lifted := Cycle.runLift (send policy now g) s w
  rw [run] at lifted
  rw [afterLook, Cycle.runBindOk lifted]
  rcases settleEnds now g t s v with done | ⟨what, e, _, _, _, _, _, _, _, cut⟩
  · rw [Cycle.runBindOk done]
    exact ⟨_, rfl⟩
  · rw [Cycle.runBindError cut]
    exact ⟨_, rfl⟩

theorem lookSilent : sendings ((look policy now).run.calls s w) = [] :=
  sendingsNone (lookOnly fun _ silent _ => silent)

section
variable (looked : (look policy now).run.run s w = (.ok (.ok g), w))
include looked

theorem cycleTries : tries policy now s w <+: g.messages policy now ∧
    ∀ answer, (dispatch policy now s w).1 = .ok answer →
      tries policy now s w = g.messages policy now := by
  have calls : tries policy now s w = sendings ((afterLook policy now g).run.calls s w) := by
    rw [tries, cycle, Cycle.callsBindOk looked, sendingsAppend, lookSilent, List.nil_append]
    rfl
  have run : dispatch policy now s w = (afterLook policy now g).run.run s w := by
    rw [dispatchRun, cycle, Cycle.runBindOk looked]
    rfl
  obtain ⟨first, all⟩ := afterLookTries policy now g s w
  exact ⟨calls ▸ first, fun answer ok => calls ▸ all answer (run ▸ ok)⟩

theorem cycleAnswers (room : Room w (g.counters policy now)) :
    ∃ answer, (dispatch policy now s w).1 = .ok answer := by
  rw [dispatchRun, cycle, Cycle.runBindOk looked]
  exact afterLookAnswers room

end

theorem heldKept (own : Rows.Own Start.key w.store.starts) (seen : Seen policy now w.store g)
    {a : Start} (held : a ∈ g.heldBack policy now) {gone kept : List Start}
    (goneStart : gone ⊆ (g.taken s policy now).doneStarts g now)
    (keptStart : kept ⊆ (g.taken s policy now).keptStarts now) :
    (((w.store.starts.remove (gone.map Start.key)).2).put Start.key kept).get? a.key =
      w.store.starts.get? a.key := by
  have distinct := Rows.ownScanDistinct own seen.starts
  have untried := heldNotTried distinct.of_map held
  obtain ⟨read, due⟩ := heldReady held
  have keptOther : ∀ r ∈ kept, r.key ≠ a.key := by
    intro r member same
    obtain ⟨b, took, rfl⟩ := List.mem_map.mp (keptStart member)
    have tried := receivedTried (List.mem_of_mem_filter took)
    rw [← List.inj_on_of_nodup_map distinct (memTried tried).1 read same] at untried
    exact untried tried
  have goneOther : a.key ∉ gone.map Start.key := by
    rw [Rows.memOfKey distinct (fun b member => doneStartsRead receivedTried (goneStart member)) read]
    intro member
    rcases List.mem_append.mp (goneStart member) with old | took
    · simp [Sight.startsWith, due] at old
    · exact untried (receivedTried (List.mem_of_mem_filter took))
  rw [Rows.getPutOther keptOther, Rows.getRemove, if_neg goneOther]

theorem cycleKeeps (own : Rows.Own Start.key w.store.starts) (seen : Seen policy now w.store g)
    {a : Start} (held : a ∈ g.heldBack policy now) :
    (dispatch policy now s w).2.store.starts.get? a.key = w.store.starts.get? a.key := by
  have ends := dispatchEnds policy now s w
  generalize dispatch policy now s w = r at *
  cases ends with
  | blind e => rfl
  | full o => rfl
  | cut what e seen' goneStart keptStart keptStop =>
    cases seenUnique seen seen'
    exact heldKept own seen held goneStart keptStart
  | settled seen' =>
    cases seenUnique seen seen'
    exact heldKept own seen held (List.Subset.refl _) (List.Subset.refl _)

theorem concludeThrottled {report : Report} (concluded : conclude policy now g t = .ok report) :
    report.throttled = (g.heldBack policy now).length := by
  unfold conclude at concluded
  split at concluded
  · cases concluded
  · cases concluded
    rfl

theorem cycleReports (seen : Seen policy now w.store g) {report : Report}
    (reported : (dispatch policy now s w).1 = .ok (.ok report)) :
    report.throttled = (g.heldBack policy now).length := by
  have ends := dispatchEnds policy now s w
  generalize dispatch policy now s w = r at *
  cases ends with
  | blind e => cases reported
  | full o => cases reported
  | cut what e seen' goneStart keptStart keptStop => cases reported
  | settled seen' =>
    cases seenUnique seen seen'
    exact concludeThrottled (Except.ok.inj reported)

structure Throttled (policy : Policy) (now : Nat) (s : Surroundings) (w : World) (g : Sight)
    (tried held : List Start) : Prop extends Selects policy now g tried held where
  sends : tries policy now s w <+:
    tried.map (startMessage g.snapshot) ++ (g.readyStops now).map (stopMessage g.snapshot)
  sendsAll : ∀ answer, (dispatch policy now s w).1 = .ok answer → tries policy now s w =
    tried.map (startMessage g.snapshot) ++ (g.readyStops now).map (stopMessage g.snapshot)
  answers : Room w (tried.map (·.reason.counter) ++ (g.readyStops now).map (·.reason.counter)) →
    ∃ answer, (dispatch policy now s w).1 = .ok answer
  kept : Rows.Own Start.key w.store.starts → ∀ a ∈ held, ∃ row, row.read = .ok a ∧
    w.store.starts.get? a.key = some row ∧
      (dispatch policy now s w).2.store.starts.get? a.key = some row
  reported : ∀ report, (dispatch policy now s w).1 = .ok (.ok report) → report.throttled = held.length

theorem seenThrottles (permitted : Open s) (seen : Seen policy now w.store g) :
    Throttled policy now s w g (g.tried policy now) (g.heldBack policy now) := by
  have looked := lookSeen permitted seen
  obtain ⟨sends, sendsAll⟩ := cycleTries looked
  rw [Sight.messages, dueStopsReady] at sends sendsAll
  exact {
    selectsTried policy now g with
    sends, sendsAll
    answers := cycleAnswers looked
    kept := fun own a held => by
      obtain ⟨row, found, reads⟩ := Rows.ownFound own seen.starts (heldReady held).1
      exact ⟨row, reads, found, (cycleKeeps own seen held).trans found⟩
    reported := fun report => cycleReports seen }

/-- Where the store is not fresh, or something that a cycle needs cannot be read, it tries
nothing and leaves all as it is; otherwise it throttles the starts that it sees, whatever else
is refused. Only a full counter keeps it from trying all that it has to. -/
theorem dispatchThrottles (policy : Policy) (now : Nat) (s : Surroundings) (w : World) :
    (∃ g tried held, Open s ∧ Seen policy now w.store g ∧ Throttled policy now s w g tried held) ∨
    (¬ (Open s ∧ ∃ g, Seen policy now w.store g)) ∧ tries policy now s w = [] ∧
      ∃ e, e.isEarly = true ∧ dispatch policy now s w = (.ok (.error e), w) := by
  by_cases sees : Open s ∧ ∃ g, Seen policy now w.store g
  · obtain ⟨permitted, g, seen⟩ := sees
    exact .inl ⟨g, _, _, permitted, seen, seenThrottles permitted seen⟩
  refine .inr ⟨sees, ?_⟩
  rcases lookLooks policy now s w with ⟨g, seen, looked⟩ | ⟨e, looked⟩
  · exact absurd ⟨lookOpen looked, g, seen⟩ sees
  · refine ⟨?_, e, Procedure.yieldsRun lookErrs looked e rfl, ?_⟩
    · rw [tries, cycle, Cycle.callsBindEnd looked (Cycle.failsError e), lookSilent]
    · rw [dispatchRun, cycle, Cycle.runBindError looked]

def crowdedStart (index messageId sendOn : Nat) (priority : Binary64) : Start :=
  ⟨⟨"web", "v1"⟩, index, .missing, priority, ⟨messageId, sendOn, 0, 0, false⟩⟩

def crowdedSight : Sight where
  starts := [crowdedStart 0 5 900 (.ofRatio 1 2), crowdedStart 1 4 950 (.ofNat 1),
    crowdedStart 2 3 950 (.ofNat 1), crowdedStart 3 1 990 (.ofNat 1), crowdedStart 4 2 1030 (.ofNat 1)]
  stops := [backlogStop]
  snapshot := .ofState [⟨⟨"web", "v1"⟩, 5, .started, .staged, 0⟩] [⟨⟨"web", "v1"⟩, 7, "old", .running, 1000⟩]

def crowded : Store :=
  let desired := (Store.empty (.ofSecs 30)).syncDesired [⟨⟨"web", "v1"⟩, 5, .started, .staged, 0⟩] 1000
  let actual := desired.saveActual [⟨⟨"web", "v1"⟩, 7, "old", .running, 1000⟩] 1000
  (actual.saveStarts crowdedSight.starts).saveStops crowdedSight.stops

theorem crowdedSeen : Seen { sendLimit := 2 } 1000 crowded crowdedSight where
  fresh := ⟨by decide, by decide⟩
  starts := by decide +kernel
  stops := by decide +kernel
  shows := ⟨_, _, rfl, rfl, rfl⟩

def shunsTwo : Surroundings where
  accepts
    | .start m => m.index ≠ 2
    | .stop _ => true

theorem crowdedThrottled : ∃ tried held,
    Throttled { sendLimit := 2 } 1000 shunsTwo ⟨crowded, []⟩ crowdedSight tried held ∧
      tried = [crowdedStart 2 3 950 (.ofNat 1), crowdedStart 1 4 950 (.ofNat 1)] ∧
      held.Perm [crowdedStart 3 1 990 (.ofNat 1), crowdedStart 0 5 900 (.ofRatio 1 2)] ∧
      tries { sendLimit := 2 } 1000 shunsTwo ⟨crowded, []⟩ =
        [.start ⟨⟨"web", "v1"⟩, 2, 3, .ofList [(7, 1)]⟩, .start ⟨⟨"web", "v1"⟩, 1, 4, .ofList [(7, 1)]⟩,
          .stop ⟨⟨"web", "v1"⟩, 7, "old", false, 9, .ofList [(7, 1)]⟩] ∧
      (dispatch { sendLimit := 2 } 1000 shunsTwo ⟨crowded, []⟩).1 = .ok (.error (.unsent 1 3)) := by
  have reads : Open shunsTwo := ⟨by decide, by decide, by decide, by decide, by decide⟩
  have ended : (dispatch { sendLimit := 2 } 1000 shunsTwo ⟨crowded, []⟩).1 =
      .ok (.error (.unsent 1 3)) := by decide +kernel
  rcases dispatchThrottles { sendLimit := 2 } 1000 shunsTwo ⟨crowded, []⟩ with
    ⟨g, tried, held, _, seen, throttled⟩ | ⟨blind, _⟩
  · cases seenUnique seen crowdedSeen
    obtain ⟨rfl, left⟩ := selectsUnique (by decide +kernel) throttled.toSelects (selectsTried _ _ _)
    have back : crowdedSight.heldBack { sendLimit := 2 } 1000 =
        [crowdedStart 3 1 990 (.ofNat 1), crowdedStart 0 5 900 (.ofRatio 1 2)] := by decide +kernel
    refine ⟨_, held, throttled, by decide +kernel, back ▸ left, ?_, ended⟩
    rw [throttled.sendsAll _ ended]
    decide +kernel
  · exact absurd ⟨reads, _, crowdedSeen⟩ blind

end Dispatch
end Fleet
