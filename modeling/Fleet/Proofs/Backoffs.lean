import Fleet.Proofs.CrashCounts
import Fleet.Proofs.Delays

/-! How long a crashing index waits over a run. The wait grows with the count of its crashes up
to the longest one; only a restart raises that count, by one, and as long as it has not
outlived its time nothing else touches it. So no restart waits less than the one before. -/
namespace Fleet

def Store.crashes (s : Store) (ttl now : Nat) (k : String) : Nat :=
  (s.current? ttl now k).elim 0 CrashCount.count

theorem Store.raisedCount (s : Store) (ttl now : Nat) (app : App) (index : Nat) :
    (s.raised ttl now app index).count =
      min (s.crashes ttl now (app.indexKey index) + 1) Bounds.count := by
  unfold raised crashes
  cases s.current? ttl now (app.indexKey index) with
  | none => rfl
  | some c => rfl

theorem Store.crashesWithin {s : Store} {k : String}
    (range : ∀ c, s.crashCounts.record? k = some c → c.count ≤ Bounds.count) (ttl now : Nat) :
    s.crashes ttl now k ≤ Bounds.count := by
  unfold crashes
  cases found : s.current? ttl now k with
  | none => exact Nat.zero_le _
  | some c => exact range c (Option.filter_eq_some_iff.mp found).1

theorem Proposal.restartWaits {policy : Policy} {log : CrashLog} {now : Nat} {v : View} {a : Start}
    (member : a ∈ (ofView policy log now v).starts) (restarts : a.reason = .crashed) :
    a.delivery.sendOn =
      after now (policy.backoff.delay (log.count a.app a.index now).count).secs := by
  obtain ⟨i, _, proposed⟩ := startsProposed member
  rcases startForCases proposed with ⟨_, rfl⟩ | ⟨_, rfl⟩ | ⟨_, rfl⟩
  · cases restarts
  · rfl
  · cases restarts

namespace Analysis
variable {policy : Policy} {now : Nat} {failing : List String} {s s' : Store} {r : Report}
  {g : Sight} {d : Decision}

theorem logCrashes (keyed : s.Keyed) (seen : Seen policy now s g) (app : App) (index : Nat) :
    (g.log.count app index now).count =
      s.crashes policy.backoff.counterTtl.secs now (app.indexKey index) := by
  have ttl : g.log.ttl = policy.backoff.counterTtl.secs := by
    obtain ⟨_, _, log⟩ := seen.log
    rw [log]
    rfl
  rw [CrashLog.count, logRecord keyed seen, Store.crashes, Store.current?, ttl]
  generalize Option.filter _ _ = current
  cases current <;> rfl

theorem analysisEither (policy : Policy) (now : Nat) (failing : List String) (s : Store) :
    ((Deed.apply policy s (.analysis now failing)).starts = s.starts ∧
      (Deed.apply policy s (.analysis now failing)).crashCounts = s.crashCounts) ∨
    ∃ r g d, Concludes policy now failing s (Deed.apply policy s (.analysis now failing)) r g d := by
  have store : Deed.apply policy s (.analysis now failing) =
      ((cycle policy now).run.run { failing } ⟨s, []⟩).2.store := rfl
  rw [store]
  have ends := cycleEnds policy now { failing } ⟨s, []⟩
  generalize (cycle policy now).run.run { failing } ⟨s, []⟩ = ended at ends
  generalize decisions _ = asked at ends
  cases ends with
  | short n _ => exact .inl ⟨rfl, rfl⟩
  | refused e _ _ => exact .inl ⟨rfl, rfl⟩
  | @saved g d n t looked numbers served removed =>
    exact .inr ⟨g.report policy now d n, g, d, lookedSeen looked, numbers, ⟨n, rfl⟩,
      (congrArg Prod.snd removed).symm⟩

theorem restartConcludes {k : String} {a : Start}
    (restarts : Restarts s (Deed.apply policy s (.analysis now failing)) k a) :
    ∃ r g d, Concludes policy now failing s (Deed.apply policy s (.analysis now failing)) r g d := by
  rcases analysisEither policy now failing s with ⟨same, _⟩ | done
  · obtain ⟨free, found, _⟩ := restarts
    rw [same, free] at found
    cases found
  · exact done

theorem restartDue (keyed : s.Keyed) (done : Concludes policy now failing s s' r g d) {k : String}
    {a : Start} (restarts : Restarts s s' k a) :
    a.delivery.sendOn =
      after now (policy.backoff.delay (s.crashes policy.backoff.counterTtl.secs now k)).secs := by
  obtain ⟨there, rfl, crashed⟩ := (restartsDecided keyed done).mp restarts
  obtain ⟨b, drafted, same⟩ := (numberedStarts done.numbers).mp ⟨a, there, rfl⟩
  have proposed := ((draftedStarts keyed done.seen).mp drafted).1
  obtain ⟨v, _, _, proposed⟩ := memProposed.mp proposed
  -- The number apart, the start is the one that was drafted.
  have reason : b.reason = a.reason := by have := congrArg Start.reason same; exact this
  have sendOn : b.delivery.sendOn = a.delivery.sendOn := by
    have := congrArg (·.delivery.sendOn) same
    exact this
  have waits := Proposal.restartWaits proposed (reason.trans crashed)
  rw [← sendOn, waits, logCrashes keyed done.seen, ← Start.unnumberedKey same, Start.key]

theorem restartCounts (keyed : s.Keyed) (done : Concludes policy now failing s s' r g d) {k : String}
    {a : Start} (restarts : Restarts s s' k a) :
    ∃ c, s'.crashCounts.record? k = some c ∧
      c.count = min (s.crashes policy.backoff.counterTtl.secs now k + 1) Bounds.count := by
  have held := (concludedCounts keyed done k).restarted a restarts
  obtain ⟨_, rfl, _⟩ := (restartsDecided keyed done).mp restarts
  refine ⟨_, ?_, Store.raisedCount s _ now a.app a.index⟩
  rw [Rows.record?, held]
  rfl

def Calm (policy : Policy) (k : String) (last : Nat) : Store → List Deed → Prop
  | _, [] => True
  | s, deed :: rest =>
      (∀ now failing, deed = .analysis now failing →
        now ≤ last ∧ ¬ ∃ a, Restarts s (deed.apply policy s) k a) ∧
      Calm policy k last (deed.apply policy s) rest

theorem deedCounts {deed : Deed} (other : ∀ now failing, deed ≠ .analysis now failing) (s : Store) :
    (deed.apply policy s).crashCounts = s.crashCounts := by
  cases deed with
  | sync specs now => rfl
  | flush batch =>
    rw [Deed.apply, Intake.flushStore]
    split <;> rfl
  | reap now =>
    simp only [Deed.apply, Store.reap]
    cases s.actual.scan <;> rfl
  | analysis now failing => exact absurd rfl (other now failing)
  | dispatch now failing accepts =>
    have ends := Dispatch.cycleEnds policy now { failing, accepts } ⟨s, []⟩
    change ((Dispatch.cycle policy now).run.run { failing, accepts } ⟨s, []⟩).2.store.crashCounts = _
    generalize (Dispatch.cycle policy now).run.run { failing, accepts } ⟨s, []⟩ = ended at ends
    cases ends <;> rfl

theorem currentEarlier {c : CrashCount} {ttl now last : Nat} (early : now ≤ last)
    (lasts : c.isCurrent ttl last = true) : c.isCurrent ttl now = true := by
  simp only [CrashCount.isCurrent, decide_eq_true_eq] at *
  omega

theorem calmCount {ttl : Span} {k : String} {last : Nat} {deeds : List Deed} {c : CrashCount}
    (reachable : s.Reachable ttl) (calm : Calm policy k last s deeds)
    (record : s.crashCounts.record? k = some c)
    (lasts : c.isCurrent policy.backoff.counterTtl.secs last = true) :
    (deeds.foldl (Deed.apply policy) s).crashCounts.record? k = some c := by
  induction deeds generalizing s with
  | nil => exact record
  | cons deed rest ih =>
    obtain ⟨here, later⟩ := calm
    refine ih (Store.deedReachable reachable policy deed) later ?_
    cases deed with
    | analysis now failing =>
      obtain ⟨early, still⟩ := here now failing rfl
      rcases analysisEither policy now failing s with ⟨_, same⟩ | ⟨r, g, d, done⟩
      · rw [same, record]
      · have current : s.current? policy.backoff.counterTtl.secs now k = some c :=
          Option.filter_eq_some_iff.mpr ⟨record, currentEarlier early lasts⟩
        have counts := (concludedCounts (Store.reachableKeyed reachable) done k).otherwise still
        rw [if_pos (.inl (by rw [current]; rfl))] at counts
        rw [Rows.record?, counts, ← Rows.record?, record]
    | _ => rw [deedCounts (by intro _ _ same; cases same), record]

instance {k : String} {a : Start} : Decidable (Restarts s s' k a) :=
  inferInstanceAs (Decidable (_ ∧ _ ∧ _))

/-- A run that begins and ends with an analysis that restarts the key, and has none between. -/
structure Recurs (policy : Policy) (k : String) (s : Store) (t₁ t₂ : Nat) (failing₁ failing₂ : List String)
    (between : List Deed) (a₁ a₂ : Start) : Prop where
  first : Restarts s (Deed.apply policy s (.analysis t₁ failing₁)) k a₁
  calm : Calm policy k t₂ (Deed.apply policy s (.analysis t₁ failing₁)) between
  second :
    let s₂ := between.foldl (Deed.apply policy) (Deed.apply policy s (.analysis t₁ failing₁))
    Restarts s₂ (Deed.apply policy s₂ (.analysis t₂ failing₂)) k a₂

structure Escalates (longest t₁ t₂ : Nat) (a₁ a₂ : Start) (c₁ c₂ : CrashCount) : Prop where
  waits : ∃ d₁ d₂, a₁.delivery.sendOn = t₁ + d₁ ∧ a₂.delivery.sendOn = t₂ + d₂ ∧ d₁ ≤ d₂ ∧ d₂ ≤ longest
  count : c₂.count = min (c₁.count + 1) Bounds.count

theorem afterWithin {now d longest : Nat} (room : now + longest ≤ Bounds.instant) (le : d ≤ longest) :
    after now d = now + d := by
  unfold after
  omega

theorem restartsEscalate {ttl : Span} {k : String} {t₁ t₂ : Nat} {failing₁ failing₂ : List String}
    {between : List Deed} {a₁ a₂ : Start} {c₁ : CrashCount} (reachable : s.Reachable ttl)
    (range : ∀ c, s.crashCounts.record? k = some c → c.count ≤ Bounds.count) (order : t₁ ≤ t₂)
    (room : t₂ + policy.backoff.maximumDelay.secs ≤ Bounds.instant)
    (recurs : Recurs policy k s t₁ t₂ failing₁ failing₂ between a₁ a₂)
    (lasts : (Deed.apply policy s (.analysis t₁ failing₁)).current?
      policy.backoff.counterTtl.secs t₂ k = some c₁) :
    let s₂ := between.foldl (Deed.apply policy) (Deed.apply policy s (.analysis t₁ failing₁))
    ∃ c₂, (Deed.apply policy s₂ (.analysis t₂ failing₂)).crashCounts.record? k = some c₂ ∧
      Escalates policy.backoff.maximumDelay.secs t₁ t₂ a₁ a₂ c₁ c₂ := by
  intro s₂
  obtain ⟨record, current⟩ := Option.filter_eq_some_iff.mp lasts
  have reachable₁ := Store.deedReachable reachable policy (.analysis t₁ failing₁)
  have reachable₂ : s₂.Reachable ttl := List.foldlRecOn (motive := Store.Reachable ttl) between _
    reachable₁ fun _ reachable deed _ => Store.deedReachable reachable policy deed
  have keyed := Store.reachableKeyed reachable
  have keyed₂ := Store.reachableKeyed reachable₂
  obtain ⟨_, _, _, done⟩ := restartConcludes recurs.first
  obtain ⟨_, _, _, done₂⟩ := restartConcludes recurs.second
  -- The first restart leaves the count that the second one finds.
  obtain ⟨c, written, count₁⟩ := restartCounts keyed done recurs.first
  obtain rfl : c = c₁ := Option.some.inj (written.symm.trans record)
  have kept : s₂.crashCounts.record? k = some c := calmCount reachable₁ recurs.calm record current
  have crashes : s₂.crashes policy.backoff.counterTtl.secs t₂ k = c.count := by
    rw [Store.crashes, Store.current?, Option.filter_eq_some_iff.mpr ⟨kept, current⟩]
    rfl
  obtain ⟨c₂, written₂, count₂⟩ := restartCounts keyed₂ done₂ recurs.second
  have due := restartDue keyed done recurs.first
  have due₂ := restartDue keyed₂ done₂ recurs.second
  rw [crashes] at count₂ due₂
  have grows : s.crashes policy.backoff.counterTtl.secs t₁ k ≤ c.count := by
    have := Store.crashesWithin range policy.backoff.counterTtl.secs t₁
    omega
  have longest : ∀ n, (policy.backoff.delay n).secs ≤ policy.backoff.maximumDelay.secs := fun n =>
    Nat.div_le_div_right (policy.backoff.delayLongest n)
  refine ⟨c₂, written₂, ⟨_, _, ?_, ?_, Nat.div_le_div_right (policy.backoff.delayMono grows), longest _⟩,
    count₂⟩
  · rw [due]
    exact afterWithin (by omega) (longest _)
  · rw [due₂]
    exact afterWithin room (longest _)

def impatient : Policy := { backoff := { minimumCrashes := 1 } }

def staggering : Store :=
  .after impatient (.ofSecs 30) [
    .sync [⟨⟨"web", "v1"⟩, 1, .started, .staged, 0⟩] 1000,
    .flush ⟨[⟨⟨"web", "v1"⟩, 0, "a", .crashed, 1000⟩], 1000⟩,
    .analysis 1000 [],
    .dispatch 1000 [] fun _ => true,
    .sync [⟨⟨"web", "v1"⟩, 1, .started, .staged, 0⟩] 1040,
    .flush ⟨[⟨⟨"web", "v1"⟩, 0, "b", .crashed, 1040⟩], 1040⟩,
    .dispatch 1040 [] fun _ => true]

def stumble : List Deed := [
  .analysis 1050 [],
  .dispatch 1080 [] fun _ => true,
  .sync [⟨⟨"web", "v1"⟩, 1, .started, .staged, 0⟩] 1120,
  .flush ⟨[⟨⟨"web", "v1"⟩, 0, "c", .crashed, 1120⟩], 1120⟩,
  .reap 1120,
  .dispatch 1120 [] fun _ => true]

theorem staggeringEscalates :
    let restart (id sendOn : Nat) : Start :=
      ⟨⟨"web", "v1"⟩, 0, .crashed, .ofNat 1, ⟨id, sendOn, 0, 30, false⟩⟩
    Recurs impatient "web,v1,0" staggering 1040 1120 [] [] stumble (restart 2 1070) (restart 3 1180) ∧
      ∃ c₂, Escalates 960 1040 1120 (restart 2 1070) (restart 3 1180) ⟨⟨"web", "v1"⟩, 0, 2, 1000⟩ c₂ := by
  intro restart
  have recurs : Recurs impatient "web,v1,0" staggering 1040 1120 [] [] stumble (restart 2 1070)
      (restart 3 1180) := by
    refine ⟨by decide +kernel, ⟨?_, nofun, nofun, nofun, nofun, nofun, trivial⟩, by decide +kernel⟩
    -- At 1050 the start is still there, so none is new.
    rintro _ _ same
    cases same
    exact ⟨by decide, fun ⟨_, free, _⟩ => absurd free (by decide +kernel)⟩
  have lasts : (Deed.apply impatient staggering (.analysis 1040 [])).current? 1920 1120 "web,v1,0" =
      some ⟨⟨"web", "v1"⟩, 0, 2, 1000⟩ := by decide +kernel
  obtain ⟨c₂, _, escalates⟩ := restartsEscalate (Store.afterReachable _ _ _) (by decide +kernel)
    (by decide) (by decide) recurs lasts
  exact ⟨recurs, c₂, escalates⟩

end Analysis
end Fleet
