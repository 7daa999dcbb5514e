import Fleet.Proofs.Keys
import Fleet.Proofs.Proposals

/-! Which indices are started: every wanted one that nobody serves, but for those that wait
until some instance of the application is alive; and those never wait for nothing. Each
restart after a crash comes with the raised count of its index. -/
namespace Fleet

theorem Table.insertedFrom {β : Type} {l : List (String × β)} {t : Table String β} {k : String} {b : β}
    (found : (l.foldl (fun t e => t.insert e.1 e.2) t).get? k = some b) :
    (k, b) ∈ l ∨ t.get? k = some b := by
  induction l generalizing t with
  | nil => exact .inr found
  | cons e l ih =>
    rcases ih found with later | now
    · exact .inl (List.mem_cons_of_mem _ later)
    · rw [getInsert] at now
      split at now
      · rename_i here
        subst here
        cases now
        exact .inl List.mem_cons_self
      · exact .inr now

theorem CrashLog.countKey (counts : List CrashCount) (ttl : Span) (app : App) (index now : Nat) :
    ((ofList counts ttl).count app index now).key = app.indexKey index := by
  unfold count
  split
  · rename_i c current
    have found := (Option.filter_eq_some_iff.mp current).1
    rcases Table.insertedFrom found with listed | old
    · obtain ⟨c', _, same⟩ := List.mem_map.mp listed
      obtain ⟨key, rfl⟩ := Prod.mk.inj same
      exact key
    · cases old
  · rfl

namespace View
variable {v : View} {i : Nat}

structure Waits (v : View) (index : Nat) : Prop where
  higher : index ≠ 0
  crashed : ∃ h ∈ v.heartbeats, h.index = index ∧ h.isCrashed = true
  down : ∀ h ∈ v.heartbeats, h.isLive = false

theorem hasCrashIff : v.hasCrashAt i = true ↔ ∃ h ∈ v.heartbeats, h.index = i ∧ h.isCrashed = true := by
  simp [hasCrashAt]

theorem needWaits : v.need i = .gated ↔ v.Waits i := by
  constructor
  · intro gated
    obtain ⟨higher, down⟩ := needGated gated
    refine ⟨higher, hasCrashIff.mp ?_, fun h member => ?_⟩
    · cases crashed : v.hasCrashAt i with
      | true => rfl
      | false => simp [need, liveAtNone down, crashed] at gated
    · simpa using List.any_eq_false.mp down h member
  · rintro ⟨higher, crashed, down⟩
    have dead : v.hasLive = false := List.any_eq_false.mpr fun h member => by simp [down h member]
    simp [need, liveAtNone dead, hasCrashIff.mpr crashed, higher, dead]

theorem isStartedIff : v.isStarted i = true ↔ ¬ v.Served i ∧ ¬ v.Waits i := by
  rw [← needServed, ← needWaits, isStarted]
  simp

end View

namespace Proposal
variable {policy : Policy} {log : CrashLog} {now : Nat} {v : View}

structure Raises (log : CrashLog) (now : Nat) (a : Start) (c : CrashCount) : Prop where
  index : c.index = a.index
  key : c.key = a.key
  raised : c = (log.count a.app a.index now).increment

structure Opened (log : CrashLog) (now : Nat) (v : View) (p : Proposal) : Prop where
  ascending : (p.starts.map Start.index).Pairwise (· < ·)
  indices : ∀ i, i ∈ p.starts.map Start.index ↔ i < v.target ∧ ¬ v.Served i ∧ ¬ v.Waits i
  counts : List.Forall₂ (Raises log now) (p.starts.filter (·.reason = .crashed)) p.crashCounts
  quiet : p.starts = [] ↔ ∀ i < v.target, v.Served i

theorem restartsCounted (owned : ∀ i, (log.count v.app i now).key = v.app.indexKey i) (l : List Nat) :
    List.Forall₂ (Raises log now)
      ((l.filterMap (startFor policy log now v)).filter (·.reason = .crashed))
      (l.filterMap (crashFor log now v)) := by
  induction l with
  | nil => exact .nil
  | cons i rest ih =>
    cases need : v.need i with
    | crashed =>
      have key : (log.count v.app i now).increment.key = v.app.indexKey i := owned i
      simp only [List.filterMap_cons, startFor, crashFor, need]
      exact .cons ⟨(App.indexKeySame key).2, key, rfl⟩ ih
    | _ => simpa [List.filterMap_cons, startFor, crashFor, need] using ih

theorem unservedStarted (calm : v.isStaging = false) (policy : Policy) (counts : List CrashCount)
    (ttl : Span) (now : Nat) :
    Opened (.ofList counts ttl) now v (ofView policy (.ofList counts ttl) now v) where
  ascending := by
    rw [startIndices calm]
    exact List.pairwise_lt_range.filter _
  indices i := by
    rw [startIndices calm, List.mem_filter, List.mem_range, View.isStartedIff]
  counts := by
    have owned := CrashLog.countKey counts ttl v.app
    simpa [ofView, calm] using restartsCounted (fun i => owned i now) (List.range v.target)
  quiet := noStarts calm

def halved : View :=
  ⟨⟨"web", "v1"⟩, some ⟨⟨"web", "v1"⟩, 4, .started, .staged, 0⟩,
    [⟨⟨"web", "v1"⟩, 0, "a", .crashed, 9⟩, ⟨⟨"web", "v1"⟩, 3, "b", .crashed, 9⟩]⟩

theorem halvedOpened : halved.isStaging = false ∧ halved.Waits 3 ∧
    ∃ p, Opened (.ofList [⟨⟨"web", "v1"⟩, 0, 4, 5⟩] (.ofSecs 60)) 10 halved p ∧
      p.starts.map Start.index = [0, 1, 2] ∧ p.crashCounts = [⟨⟨"web", "v1"⟩, 0, 5, 5⟩] :=
  ⟨rfl, ⟨by decide, ⟨⟨⟨"web", "v1"⟩, 3, "b", .crashed, 9⟩, by decide⟩, by decide⟩,
    _, unservedStarted rfl {} _ _ _, by decide +kernel, by decide +kernel⟩

end Proposal
end Fleet
