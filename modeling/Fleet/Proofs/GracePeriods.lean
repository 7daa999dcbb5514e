import Fleet.Proofs.Dismissals
import Fleet.Proofs.SettingsChecks

/-! What a grace period is worth that is not a whole number of seconds. Duplicates are stopped
a grace period apart and actions kept for one as long as it has a whole second in it; a
shorter one passes every check of the settings and then counts as none. -/
namespace Fleet

theorem Span.secsPos {s : Span} : 1 ≤ s.secs ↔ perSecond ≤ s.nanos := by
  rw [secs, Nat.le_div_iff_mul_le (by decide), Nat.one_mul]

namespace Proposal
variable {policy : Policy} {log : CrashLog} {now : Nat} {v : View} {i : Nat}

def isDuplicateAt (index : Nat) (s : Stop) : Bool := s.reason = .duplicate && s.index = index

def duplicatesAt (p : Proposal) (index : Nat) : List Stop := p.stops.filter (isDuplicateAt index)

theorem duplicatesStaggered (policy : Policy) (log : CrashLog) (now : Nat) (v : View) (i : Nat) :
    ∃ l, (ofView policy log now v).duplicatesAt i = staggered policy now 1 l := by
  unfold ofView duplicatesAt
  split
  · exact ⟨[], rfl⟩
  simp only
  split
  · have duplicates := stopsForAt (by decide : StopReason.duplicate ≠ .extra) policy now v i
    rw [stopsAtDuplicates] at duplicates
    split at duplicates
    · exact ⟨_, duplicates⟩
    · exact ⟨[], duplicates⟩
  · exact ⟨[], rfl⟩

def Room (policy : Policy) (log : CrashLog) (now : Nat) (v : View) : Prop :=
  ∀ i, now + ((ofView policy log now v).duplicatesAt i).length * policy.grace.secs ≤ Bounds.instant

structure Kept (d : Delivery) : Prop where
  span : 1 ≤ d.keepAlive
  again : d.fireAndForget = false

structure Patient (policy : Policy) (log : CrashLog) (now : Nat) (v : View) : Prop where
  later : ∀ i, ∀ s ∈ (ofView policy log now v).duplicatesAt i, now < s.delivery.sendOn
  apart : ∀ i, ((ofView policy log now v).duplicatesAt i).Pairwise
    fun a b => a.delivery.sendOn < b.delivery.sendOn
  starts : ∀ s ∈ (ofView policy log now v).starts,
    s.reason = .crashed ∨ s.reason = .evacuating → Kept s.delivery
  stops : ∀ s ∈ (ofView policy log now v).stops, Kept s.delivery

theorem staggeredTimes (rank : Nat) (l : List Heartbeat) :
    (staggered policy now rank l).map (·.delivery.sendOn) =
      (List.range' rank l.length).map fun j => after now (repeated j policy.grace.secs) := by
  induction l generalizing rank with
  | nil => rfl
  | cons h rest ih => simp [staggered, stopOf, delivery, ih, List.range'_succ]

theorem duplicateTimes (room : Room policy log now v) (i : Nat) :
    ((ofView policy log now v).duplicatesAt i).map (·.delivery.sendOn) =
      (List.range' 1 ((ofView policy log now v).duplicatesAt i).length).map
        fun j => now + j * policy.grace.secs := by
  have fits := room i
  obtain ⟨l, staggers⟩ := duplicatesStaggered policy log now v i
  have many : (staggered policy now 1 l).length = l.length := by
    rw [← List.length_map (·.delivery.sendOn), staggeredTimes, List.length_map, List.length_range']
  rw [staggers, many] at fits
  rw [staggers, many, staggeredTimes]
  refine List.map_congr_left fun j member => ?_
  have rank : j ≤ l.length := by
    have := List.mem_range'_1.mp member
    omega
  have spans : j * policy.grace.secs ≤ l.length * policy.grace.secs := Nat.mul_le_mul_right _ rank
  unfold after repeated
  omega

theorem duplicatesSpread (second : 1 ≤ policy.grace.secs) (room : Room policy log now v) (i : Nat) :
    (now :: ((ofView policy log now v).duplicatesAt i).map (·.delivery.sendOn)).Pairwise (· < ·) := by
  rw [duplicateTimes room i]
  refine List.pairwise_cons.mpr ⟨?_, List.pairwise_map.mpr ((List.pairwise_lt_range' 1).imp ?_)⟩
  · intro time member
    obtain ⟨j, ranked, rfl⟩ := List.mem_map.mp member
    have first := (List.mem_range'_1.mp ranked).1
    have := Nat.mul_le_mul first second
    omega
  · intro a b before
    have := Nat.mul_lt_mul_of_pos_right before second
    omega

theorem keptOf {d : Delivery} (span : 1 ≤ d.keepAlive) : Kept d :=
  ⟨span, by simp [Delivery.fireAndForget, Nat.ne_of_gt span]⟩

theorem startsKept (second : 1 ≤ policy.grace.secs) {s : Start}
    (member : s ∈ (ofView policy log now v).starts)
    (urgent : s.reason = .crashed ∨ s.reason = .evacuating) : Kept s.delivery := by
  obtain ⟨i, _, proposed⟩ := startsProposed member
  rcases startForCases proposed with ⟨_, rfl⟩ | ⟨_, rfl⟩ | ⟨_, rfl⟩
  · simp at urgent
  · exact keptOf second
  · exact keptOf second

theorem stopsKept (second : 1 ≤ policy.grace.secs) {s : Stop}
    (member : s ∈ (ofView policy log now v).stops) : Kept s.delivery := by
  obtain ⟨_, h, _, reason, sendOn, rfl⟩ := memStops member
  exact keptOf second

theorem patientOf (second : 1 ≤ policy.grace.secs) (room : Room policy log now v) :
    Patient policy log now v where
  later i _ member :=
    (List.pairwise_cons.mp (duplicatesSpread second room i)).1 _ (List.mem_map_of_mem member)
  apart i := List.pairwise_map.mp (List.pairwise_cons.mp (duplicatesSpread second room i)).2
  starts _ member urgent := startsKept second member urgent
  stops _ member := stopsKept second member

def unwanted : View := ⟨⟨"web", "v1"⟩, none, [⟨⟨"web", "v1"⟩, 0, "a", .running, 0⟩]⟩

theorem unwantedStop (policy : Policy) (log : CrashLog) :
    (ofView policy log 0 unwanted).stops =
      [⟨⟨"web", "v1"⟩, 0, "a", .extra, delivery 0 policy.grace.secs false⟩] := rfl

theorem unwantedRoom (policy : Policy) (log : CrashLog) : Room policy log 0 unwanted := by
  intro i
  have none : (ofView policy log 0 unwanted).duplicatesAt i = [] := by
    simp [duplicatesAt, unwantedStop, isDuplicateAt]
  simp [none]

end Proposal

namespace Settings
open Proposal

theorem patientIffSecond {text : String} {settings : Settings}
    (accepted : ofText text = .ok settings) :
    ∃ policy, settings.policy = .ok policy ∧
      ((∀ log now v, Room policy log now v → Patient policy log now v) ↔
        Span.perSecond ≤ policy.grace.nanos) := by
  obtain ⟨d, resolved⟩ := ofTextResolved accepted
  refine ⟨settings.policyOf d, by simp [policy, resolved, Except.map], ?_⟩
  rw [← Span.secsPos]
  constructor
  · -- A stop of an instance that is not wanted waits for nothing and is kept for the period itself.
    intro patient
    have kept := (patient (.ofList [] .zero) 0 unwanted (unwantedRoom _ _)).stops
    rw [unwantedStop] at kept
    exact (kept _ List.mem_cons_self).span
  · exact fun second log now v room => patientOf second room

def thrice : View :=
  ⟨⟨"web", "v1"⟩, some ⟨⟨"web", "v1"⟩, 1, .started, .staged, 0⟩,
    ["a", "b", "c"].map fun guid => ⟨⟨"web", "v1"⟩, 0, guid, .running, 1000⟩⟩

theorem secondAndHalfPatient :
    ofText "[convergence]\ngrace_period = \"1500ms\"\n" = .ok (withGrace "1500ms") ∧
    ∃ policy log, (withGrace "1500ms").policy = .ok policy ∧ policy.grace = .ofMillis 1500 ∧
      Room policy log 1000 thrice ∧ Patient policy log 1000 thrice ∧
      ((ofView policy log 1000 thrice).duplicatesAt 0).map Stop.delivery =
        [delivery 1001 1 false, delivery 1002 1 false] := by
  have accepted : ofText "[convergence]\ngrace_period = \"1500ms\"\n" = .ok (withGrace "1500ms") := by
    decide +kernel
  have built : (withGrace "1500ms").policy = .ok { grace := .ofMillis 1500 } := by decide +kernel
  have room : Room { grace := .ofMillis 1500 } (.ofList [] .zero) 1000 thrice := by
    intro i
    have stops : (ofView { grace := .ofMillis 1500 } (.ofList [] .zero) 1000
        thrice).stops.length = 2 := by decide +kernel
    have few : ((ofView { grace := .ofMillis 1500 } (.ofList [] .zero) 1000 thrice).duplicatesAt
        i).length ≤ 2 := stops ▸ List.length_filter_le _ _
    have second : ({ grace := .ofMillis 1500 } : Policy).grace.secs = 1 := by decide
    rw [second, Bounds.instant]
    omega
  obtain ⟨policy, same, given⟩ := patientIffSecond accepted
  obtain rfl := Except.ok.inj (built.symm.trans same)
  exact ⟨accepted, _, _, same, rfl, room, given.mpr (by decide) _ _ _ room, by decide +kernel⟩

theorem halfSecondForgotten :
    ofText "[convergence]\ngrace_period = \"500ms\"\n" = .ok (withGrace "500ms") ∧
    ∃ policy log, (withGrace "500ms").policy = .ok policy ∧ policy.grace ≠ .zero ∧
      (thrice.heartbeats.map Heartbeat.guid).Nodup ∧ Room policy log 1000 thrice ∧
      ((ofView policy log 1000 thrice).duplicatesAt 0).map Stop.delivery =
        [delivery 1000 0 false, delivery 1000 0 false] ∧ ¬ Patient policy log 1000 thrice := by
  have none : ({ grace := .ofMillis 500 } : Policy).grace.secs = 0 := by decide
  have deliveries : ((ofView { grace := .ofMillis 500 } (.ofList [] .zero) 1000 thrice).duplicatesAt
      0).map Stop.delivery = [delivery 1000 0 false, delivery 1000 0 false] := by decide +kernel
  refine ⟨by decide +kernel, _, .ofList [] .zero, by decide +kernel, by decide, by decide,
    fun i => by rw [none, Nat.mul_zero]; decide, deliveries, fun patient => ?_⟩
  have apart := (List.pairwise_map (R := fun a b : Delivery => a.sendOn < b.sendOn)).mpr
    (patient.apart 0)
  rw [deliveries] at apart
  exact absurd apart (by decide)

end Settings
end Fleet
