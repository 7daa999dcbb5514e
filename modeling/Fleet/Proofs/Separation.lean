import Fleet.Proofs.CrashCounts

/-! What an analysis does for one application depends on the records of that application
alone, unless others stand in their way: records of an application whose key is the same
text, or the stop or a live instance of another under the guid of one of its instances. -/
namespace Fleet

namespace Rows
variable {α : Type} [Record α] {key : α → String} {t u : Rows α} {l m : List α}

def Named (key : α → String) (t : Rows α) : Prop := ∀ k a, t.record? k = some a → key a = k

theorem namedScan (own : Own key t) (keeps : ∀ r a : α, Record.settle r = some a → key a = key r)
    (read : t.scan = .ok l) : Named key t := by
  intro k a record
  obtain ⟨row, found, is⟩ := Option.bind_eq_some_iff.mp record
  obtain ⟨r, _, reads⟩ := scanReads read found
  obtain ⟨b, is', same⟩ := Row.readRecord reads
  obtain rfl := Option.some.inj (is.symm.trans is')
  rcases same with rfl | settled
  · exact own k row a found reads
  · rw [← keeps a r settled]
    exact own k row r found reads

theorem namedPut (named : Named key t) (rs : List α) : Named key (put key t rs) := by
  intro k a record
  rcases recordPut record with ⟨_, old⟩ | ⟨_, same⟩
  · exact named k a old
  · exact same

theorem namedRemove (named : Named key t) (ks : List String) : Named key (remove t ks).2 :=
  fun k a record => named k a (recordRemove.mp record).2

theorem recordsAscending (named : Named key t) :
    t.records.Pairwise fun a b => compare (key a) (key b) = .lt := by
  refine recordsPairwise fun k k' a a' below record record' => ?_
  rwa [named k a record, named k' a' record']

omit [Record α] in
theorem ascendingExt (up : l.Pairwise fun a b => compare (key a) (key b) = .lt)
    (up' : m.Pairwise fun a b => compare (key a) (key b) = .lt) (same : ∀ a, a ∈ l ↔ a ∈ m) :
    l = m := by
  have filed : l.map (fun a => (key a, a)) = m.map fun a => (key a, a) := by
    refine Table.entriesExt (List.pairwise_map.mpr up) (List.pairwise_map.mpr up') fun e => ?_
    simp only [List.mem_map, same]
  have records := congrArg (List.map Prod.snd) filed
  simpa [Function.comp_def] using records

theorem scanRecords (settles : ∀ r : α, Record.settle r = some r) (read : t.scan = .ok l) :
    t.records = l := by
  have each := mapMOk.mp read
  unfold records
  generalize t.values = rows at each
  clear read
  induction each with
  | nil => rfl
  | cons reads _ ih =>
    rw [List.filterMap_cons, (Row.readSettled settles).mp reads, ih]

theorem recordFree (readable : Readable t) {k : String} : t.record? k = none ↔ t.get? k = none := by
  unfold record?
  cases found : t.get? k with
  | none => simp
  | some row =>
    obtain ⟨a, reads⟩ := readable k row found
    obtain ⟨r, is, _⟩ := Row.readRecord reads
    simp [is]

theorem recordAlike {appOf : α → App} {app : App} (named : Named key t) (named' : Named key u)
    (alike : t.records.filter (appOf · = app) = u.records.filter (appOf · = app)) {k : String}
    (alone : ∀ a ∈ t.records, key a = k → appOf a = app)
    (alone' : ∀ a ∈ u.records, key a = k → appOf a = app) : t.record? k = u.record? k := by
  have crosses : ∀ {v w : Rows α}, Named key v → Named key w →
      v.records.filter (appOf · = app) = w.records.filter (appOf · = app) →
      (∀ a ∈ v.records, key a = k → appOf a = app) → ∀ a, v.record? k = some a → w.record? k = some a := by
    intro v w named named' alike alone a record
    have member := memRecords.mpr ⟨k, record⟩
    have owned : a ∈ w.records.filter (appOf · = app) := by
      rw [← alike]
      exact List.mem_filter.mpr ⟨member, decide_eq_true (alone a member (named k a record))⟩
    obtain ⟨j, record'⟩ := memRecords.mp (List.mem_of_mem_filter owned)
    rwa [← named' j a record', named k a record] at record'
  exact Option.ext fun a => ⟨crosses named named' alike alone a,
    crosses named' named alike.symm alone' a⟩

theorem freeAlike {appOf : α → App} {app : App} (named : Named key t) (named' : Named key u)
    (read : t.scan = .ok l) (read' : u.scan = .ok m)
    (alike : t.records.filter (appOf · = app) = u.records.filter (appOf · = app)) {k : String}
    (alone : ∀ a ∈ t.records, key a = k → appOf a = app)
    (alone' : ∀ a ∈ u.records, key a = k → appOf a = app) : t.get? k = none ↔ u.get? k = none := by
  rw [← recordFree (scanReadable read), ← recordFree (scanReadable read'),
    recordAlike named named' alike alone alone']

end Rows

namespace Store

def living (s : Store) (now : Nat) : List Heartbeat :=
  s.actual.records.filter fun h => h.isCurrent s.heartbeatTtl now && h.isLive

theorem actualRecords {s : Store} {now : Nat} {actual : List Heartbeat}
    (read : s.actualState now = .ok actual) :
    actual = s.actual.records.filter (·.isCurrent s.heartbeatTtl now) := by
  unfold actualState at read
  cases scan : s.actual.scan with
  | error e =>
    rw [scan] at read
    cases read
  | ok hs =>
    rw [scan] at read
    cases read
    rw [Rows.scanRecords Heartbeat.settle scan]

structure Alike (app : App) (s t : Store) : Prop where
  desired : s.desired.records.filter (·.app = app) = t.desired.records.filter (·.app = app)
  actual : s.actual.records.filter (·.app = app) = t.actual.records.filter (·.app = app)
  crashCounts : s.crashCounts.records.filter (·.app = app) = t.crashCounts.records.filter (·.app = app)
  starts : s.starts.records.filter (·.app = app) = t.starts.records.filter (·.app = app)
  stops : s.stops.records.filter (·.app = app) = t.stops.records.filter (·.app = app)

structure Separate (app : App) (now : Nat) (s : Store) : Prop where
  desired : ∀ spec ∈ s.desired.records, spec.app.key = app.key → spec.app = app
  crashCounts : ∀ c ∈ s.crashCounts.records, c.app.key = app.key → c.app = app
  starts : ∀ a ∈ s.starts.records, a.app.key = app.key → a.app = app
  stops : ∀ h ∈ s.living now, h.app = app → ∀ a ∈ s.stops.records, a.guid = h.guid → a.app = app
  guids : ∀ h ∈ s.living now, h.app = app → ∀ k ∈ s.living now, k.guid = h.guid → k.app = app

def openedFor (app : App) (s s' : Store) : List Start :=
  (s'.starts.records.filter fun a => a.app = app && !s.starts.contains a.key).map Start.unnumbered

def closedFor (app : App) (s s' : Store) : List Stop :=
  (s'.stops.records.filter fun a => a.app = app && !s.stops.contains a.key).map Stop.unnumbered

end Store

theorem Proposal.ofViewLog {policy : Policy} {log log' : CrashLog} {now : Nat} {v : View}
    (same : ∀ i, log.count v.app i now = log'.count v.app i now) :
    ofView policy log now v = ofView policy log' now v := by
  have starts : startFor policy log now v = startFor policy log' now v := by
    funext i
    simp only [startFor, same]
  have crashes : crashFor log now v = crashFor log' now v := by
    funext i
    simp only [crashFor, same]
  rw [ofView, ofView, starts, crashes]

namespace Analysis
variable {policy : Policy} {now : Nat} {failing : List String} {app : App} {s s' : Store}
  {r : Report} {g : Sight} {d : Decision}

def Sight.proposalFor (g : Sight) (policy : Policy) (now : Nat) (app : App) : Proposal :=
  match g.snapshot.view? app with
  | some v => .ofView policy g.log now v
  | none => .nothing

theorem memProposalFor {α : Type} {part : Proposal → List α} {appOf : α → App}
    (none : part .nothing = []) (seen : Seen policy now s g)
    (owned : ∀ v, g.snapshot.view? v.app = some v →
      ∀ a ∈ part (.ofView policy g.log now v), appOf a = v.app) {a : α} :
    a ∈ part (g.proposalFor policy now app) ↔
      a ∈ (g.proposals policy now).flatMap part ∧ appOf a = app := by
  obtain ⟨desired, actual, _, _, shows⟩ := seen.shows
  rw [Sight.proposals, memProposed, Sight.proposalFor]
  constructor
  · intro member
    split at member
    · rename_i v found
      have named : v.app = app := (Snapshot.viewFiled (shows ▸ found)).1
      have calm : v.isStaging = false := by
        cases staging : v.isStaging with
        | false => rfl
        | true => simp [Proposal.ofView, staging, none] at member
      have listed : v ∈ g.snapshot.apps := List.mem_map.mpr ⟨_, (Table.getSome _).mp found, rfl⟩
      subst named
      exact ⟨⟨v, listed, calm, member⟩, owned v found a member⟩
    · rw [none] at member
      cases member
  · rintro ⟨⟨v, shown, _, proposed⟩, rfl⟩
    have found : g.snapshot.view? v.app = some v := by
      rw [shows] at shown ⊢
      exact Snapshot.appsFiled shown
    rw [owned v found a proposed, found]
    exact proposed

theorem memStartsFor (seen : Seen policy now s g) {a : Start} :
    a ∈ (g.proposalFor policy now app).starts ↔
      a ∈ (g.proposals policy now).flatMap Proposal.starts ∧ a.app = app := by
  refine memProposalFor rfl seen fun v _ a member => ?_
  obtain ⟨_, _, opens⟩ := Proposal.memStarts member
  exact opens.app

theorem proposedLiving (seen : Seen policy now s g) {a : Stop} {v : View}
    (found : g.snapshot.view? v.app = some v) (member : a ∈ (Proposal.ofView policy g.log now v).stops) :
    a.app = v.app ∧ ∃ h ∈ s.living now, h.app = a.app ∧ a.guid = h.guid := by
  obtain ⟨desired, actual, _, read, shows⟩ := seen.shows
  obtain ⟨h, listed, live, guid, owned⟩ := proposedStopGuid member
  rw [(Snapshot.viewFiled (shows ▸ found)).2] at listed
  obtain ⟨reported, named⟩ := List.mem_filter.mp listed
  refine ⟨owned.trans (of_decide_eq_true named), h, ?_, owned.symm, guid⟩
  rw [Store.actualRecords read] at reported
  obtain ⟨there, current⟩ := List.mem_filter.mp reported
  exact List.mem_filter.mpr ⟨there, by rw [current, live]; rfl⟩

theorem memStopsFor (seen : Seen policy now s g) {a : Stop} :
    a ∈ (g.proposalFor policy now app).stops ↔
      a ∈ (g.proposals policy now).flatMap Proposal.stops ∧ a.app = app :=
  memProposalFor rfl seen fun _ found _ member => (proposedLiving seen found member).1

theorem stopLiving (seen : Seen policy now s g) {a : Stop}
    (proposed : a ∈ (g.proposals policy now).flatMap Proposal.stops) :
    ∃ h ∈ s.living now, h.app = a.app ∧ a.guid = h.guid := by
  obtain ⟨desired, actual, _, _, shows⟩ := seen.shows
  rw [Sight.proposals, memProposed] at proposed
  obtain ⟨v, shown, _, member⟩ := proposed
  refine (proposedLiving seen (v := v) ?_ member).2
  rw [shows] at shown ⊢
  exact Snapshot.appsFiled shown

theorem stopsForOnce (keyed : s.Keyed) (seen : Seen policy now s g) :
    ((g.proposalFor policy now app).stops.map Stop.guid).Nodup := by
  unfold Sight.proposalFor
  split
  · rename_i v found
    exact Proposal.stopsOnce (Snapshot.guidsDistinct keyed.actual seen.shows found) policy g.log now
  · exact .nil

theorem startsNamed (keyed : s.Keyed) (seen : Seen policy now s g) : Rows.Named Start.key s.starts := by
  obtain ⟨_, read, _⟩ := seen.starts
  exact Rows.namedScan keyed.starts Start.settleKey read

theorem stopsNamed (keyed : s.Keyed) (seen : Seen policy now s g) : Rows.Named Stop.key s.stops := by
  obtain ⟨_, read, _⟩ := seen.stops
  exact Rows.namedScan keyed.stops Stop.settleKey read

theorem countsNamed (keyed : s.Keyed) (seen : Seen policy now s g) :
    Rows.Named CrashCount.key s.crashCounts := by
  obtain ⟨_, read, _⟩ := seen.log
  exact Rows.namedScan keyed.crashCounts CrashCount.settleKey read

section
variable (keyed : s.Keyed) (done : Concludes policy now failing s s' r g d)
include keyed done

theorem openedAscending : (s.openedFor app s').Pairwise fun a b => compare a.key b.key = .lt := by
  have named : Rows.Named Start.key s'.starts := by
    rw [done.store]
    exact Rows.namedPut (startsNamed keyed done.seen) d.starts
  exact List.pairwise_map.mpr ((Rows.recordsAscending named).filter _)

theorem closedAscending : (s.closedFor app s').Pairwise fun a b => compare a.key b.key = .lt := by
  have named : Rows.Named Stop.key s'.stops := by
    rw [done.store]
    exact Rows.namedPut (stopsNamed keyed done.seen) d.stops
  exact List.pairwise_map.mpr ((Rows.recordsAscending named).filter _)

theorem memOpenedFor {u : Start} : u ∈ s.openedFor app s' ↔
    ∃ a ∈ (g.proposalFor policy now app).starts, s.starts.get? a.key = none ∧ a.unnumbered = u := by
  have table : s'.starts = Rows.put Start.key s.starts d.starts := by rw [done.store]; rfl
  simp only [Store.openedFor, List.mem_map, List.mem_filter, Bool.and_eq_true, decide_eq_true_eq,
    Bool.not_eq_true', Table.contains, Option.isSome_eq_false_iff, Option.isNone_iff_eq_none,
    memStartsFor done.seen]
  constructor
  · rintro ⟨b, ⟨member, owned, free⟩, rfl⟩
    obtain ⟨k, record⟩ := Rows.memRecords.mp member
    rw [table] at record
    rcases Rows.recordPut record with ⟨_, old⟩ | ⟨new, _⟩
    · rw [← startsNamed keyed done.seen k b old, Rows.record?, free] at old
      cases old
    · obtain ⟨a, drafted, same⟩ := (numberedStarts done.numbers).mp ⟨b, new, rfl⟩
      obtain ⟨proposed, free'⟩ := (draftedStarts keyed done.seen).mp drafted
      exact ⟨a, ⟨proposed, (Start.unnumberedApp same).trans owned⟩, free', same⟩
  · rintro ⟨a, ⟨proposed, owned⟩, free, rfl⟩
    have drafted := (draftedStarts keyed done.seen).mpr ⟨proposed, free⟩
    obtain ⟨b, new, same⟩ := (numberedStarts done.numbers).mpr ⟨a, drafted, rfl⟩
    have held := ((startsGained keyed done).held b.key (.held b)).mpr (.inr ⟨b, new, rfl, rfl⟩)
    refine ⟨b, ⟨Rows.memRecords.mpr ⟨b.key, ?_⟩, (Start.unnumberedApp same).trans owned, ?_⟩, same⟩
    · rw [Rows.record?, held]
      rfl
    · rw [Start.unnumberedKey same, free]

theorem memClosedFor (apart : s.Separate app now) {u : Stop} : u ∈ s.closedFor app s' ↔
    ∃ a ∈ (g.proposalFor policy now app).stops, s.stops.get? a.key = none ∧ a.unnumbered = u := by
  have table : s'.stops = Rows.put Stop.key s.stops d.stops := by rw [done.store]; rfl
  simp only [Store.closedFor, List.mem_map, List.mem_filter, Bool.and_eq_true, decide_eq_true_eq,
    Bool.not_eq_true', Table.contains, Option.isSome_eq_false_iff, Option.isNone_iff_eq_none]
  constructor
  · rintro ⟨b, ⟨member, owned, free⟩, rfl⟩
    obtain ⟨k, record⟩ := Rows.memRecords.mp member
    rw [table] at record
    rcases Rows.recordPut record with ⟨_, old⟩ | ⟨new, _⟩
    · rw [← stopsNamed keyed done.seen k b old, Rows.record?, free] at old
      cases old
    · obtain ⟨a, drafted, same⟩ := (numberedStops done.numbers).mp ⟨b, new, rfl⟩
      obtain ⟨proposed, free'⟩ := (draftedStops keyed done.seen).mp drafted
      exact ⟨a, (memStopsFor done.seen).mpr ⟨proposed, (Stop.unnumberedApp same).trans owned⟩, free', same⟩
  · rintro ⟨a, member, free, rfl⟩
    obtain ⟨proposed, owned⟩ := (memStopsFor done.seen).mp member
    have drafted := (draftedStops keyed done.seen).mpr ⟨proposed, free⟩
    obtain ⟨b, new, same⟩ := (numberedStops done.numbers).mpr ⟨a, drafted, rfl⟩
    have written : ∃ b ∈ d.stops, b.key = a.key := ⟨b, new, Stop.unnumberedKey same⟩
    obtain ⟨c, there, key, held⟩ := Rows.getPutSome (t := s.stops) written
    -- Of several stops of one guid the last stays; all of them are of this application, so
    -- it is the one that was proposed.
    obtain ⟨a', drafted', same'⟩ := (numberedStops done.numbers).mp ⟨c, there, rfl⟩
    obtain ⟨proposed', _⟩ := (draftedStops keyed done.seen).mp drafted'
    have guid' : a'.guid = a.guid := (Stop.unnumberedKey same').trans key
    obtain ⟨h, live, ofApp, guid⟩ := stopLiving done.seen proposed
    obtain ⟨k, live', ofApp', other⟩ := stopLiving done.seen proposed'
    have owned' : a'.app = app := by
      rw [← ofApp']
      exact apart.guids h live (ofApp.trans owned) k live' (by rw [← other, guid', guid])
    have only : a' = a := List.inj_on_of_nodup_map (stopsForOnce keyed done.seen)
      ((memStopsFor done.seen).mpr ⟨proposed', owned'⟩) member guid'
    subst only
    refine ⟨c, ⟨Rows.memRecords.mpr ⟨a'.key, ?_⟩, (Stop.unnumberedApp same').symm.trans owned', ?_⟩, same'.symm⟩
    · rw [table, Rows.record?, held]
      rfl
    · rw [key, free]

theorem restartOwned (apart : s.Separate app now) {i : Nat} {a : Start}
    (restarts : Restarts s s' (app.indexKey i) a) : a.app = app ∧ a.index = i := by
  obtain ⟨there, key, _⟩ := (restartsDecided keyed done).mp restarts
  obtain ⟨same, index⟩ := App.indexKeySame key
  obtain ⟨b, drafted, rest⟩ := (numberedStarts done.numbers).mp ⟨a, there, rfl⟩
  obtain ⟨proposed, _⟩ := (draftedStarts keyed done.seen).mp drafted
  obtain ⟨desired, actual, read, _, shows⟩ := done.seen.shows
  rw [Sight.proposals, shows] at proposed
  obtain ⟨spec, member, ofApp⟩ := proposedWanted proposed
  rw [Start.unnumberedApp rest] at ofApp
  refine ⟨?_, index⟩
  rw [← ofApp] at same ⊢
  exact apart.desired spec (Rows.scanRecords Spec.settle read ▸ member) same

theorem restartsFor (apart : s.Separate app now) {i : Nat} :
    (∃ a, Restarts s s' (app.indexKey i) a) ↔ ∃ a ∈ (g.proposalFor policy now app).starts,
      a.index = i ∧ a.reason = .crashed ∧ s.starts.get? (app.indexKey i) = none := by
  simp only [memStartsFor done.seen]
  constructor
  · rintro ⟨a, restarts⟩
    obtain ⟨owned, index⟩ := restartOwned keyed done apart restarts
    obtain ⟨there, key, crashed⟩ := (restartsDecided keyed done).mp restarts
    obtain ⟨b, drafted, same⟩ := (numberedStarts done.numbers).mp ⟨a, there, rfl⟩
    obtain ⟨proposed, free⟩ := (draftedStarts keyed done.seen).mp drafted
    rw [Start.unnumberedKey same, key] at free
    have reason := congrArg Start.reason same
    have index' := congrArg Start.index same
    exact ⟨b, ⟨proposed, (Start.unnumberedApp same).trans owned⟩, index'.trans index,
      reason.trans crashed, free⟩
  · rintro ⟨a, ⟨proposed, rfl⟩, rfl, crashed, free⟩
    have drafted := (draftedStarts keyed done.seen).mpr ⟨proposed, free⟩
    obtain ⟨b, there, same⟩ := (numberedStarts done.numbers).mpr ⟨a, drafted, rfl⟩
    have reason := congrArg Start.reason same
    exact ⟨b, (restartsDecided keyed done).mpr ⟨there, Start.unnumberedKey same, reason.trans crashed⟩⟩

end

section
variable {t t' : Store} {q : Report} {g' : Sight} {d' : Decision}
  (keyed : s.Keyed) (keyed' : t.Keyed) (ttl : s.heartbeatTtl = t.heartbeatTtl)
  (alike : s.Alike app t) (apart : s.Separate app now) (apart' : t.Separate app now)
  (seen : Seen policy now s g) (seen' : Seen policy now t g')

include ttl alike seen seen' in
theorem viewAlike : g.snapshot.view? app = g'.snapshot.view? app := by
  obtain ⟨desired, actual, desiredRead, actualRead, shows⟩ := seen.shows
  obtain ⟨desired', actual', desiredRead', actualRead', shows'⟩ := seen'.shows
  have specs : desired.filter (·.app = app) = desired'.filter (·.app = app) := by
    rw [← Rows.scanRecords Spec.settle desiredRead, ← Rows.scanRecords Spec.settle desiredRead']
    exact alike.desired
  have heartbeats : actual.filter (·.app = app) = actual'.filter (·.app = app) := by
    rw [Store.actualRecords actualRead, Store.actualRecords actualRead', List.filter_comm,
      alike.actual, List.filter_comm, ttl]
  rw [shows, shows', Snapshot.viewOfState, Snapshot.viewOfState, specs, heartbeats]

include keyed keyed' alike apart apart' seen seen'

theorem countAlike (i : Nat) :
    s.crashCounts.record? (app.indexKey i) = t.crashCounts.record? (app.indexKey i) := by
  refine Rows.recordAlike (countsNamed keyed seen) (countsNamed keyed' seen') alike.crashCounts
    (fun c member key => ?_) fun c member key => ?_
  · exact apart.crashCounts c member (App.indexKeySame key).1
  · exact apart'.crashCounts c member (App.indexKeySame key).1

theorem startAlike (i : Nat) : s.starts.get? (app.indexKey i) = none ↔ t.starts.get? (app.indexKey i) = none := by
  obtain ⟨_, read, _⟩ := seen.starts
  obtain ⟨_, read', _⟩ := seen'.starts
  refine Rows.freeAlike (startsNamed keyed seen) (startsNamed keyed' seen') read read' alike.starts
    (fun a member key => ?_) fun a member key => ?_
  · exact apart.starts a member (App.indexKeySame key).1
  · exact apart'.starts a member (App.indexKeySame key).1

theorem stopAlike {guid : String} (lives : ∃ h ∈ s.living now, h.app = app ∧ guid = h.guid)
    (lives' : ∃ h ∈ t.living now, h.app = app ∧ guid = h.guid) :
    s.stops.get? guid = none ↔ t.stops.get? guid = none := by
  obtain ⟨_, read, _⟩ := seen.stops
  obtain ⟨_, read', _⟩ := seen'.stops
  refine Rows.freeAlike (stopsNamed keyed seen) (stopsNamed keyed' seen') read read' alike.stops
    (fun a member key => ?_) fun a member key => ?_
  · obtain ⟨h, live, owned, rfl⟩ := lives
    exact apart.stops h live owned a member key
  · obtain ⟨h, live, owned, rfl⟩ := lives'
    exact apart'.stops h live owned a member key

include ttl

theorem proposalAlike : g.proposalFor policy now app = g'.proposalFor policy now app := by
  rw [Sight.proposalFor, Sight.proposalFor, viewAlike ttl alike seen seen']
  split
  · rename_i v found
    obtain ⟨_, _, _, _, shows⟩ := seen'.shows
    have named : v.app = app := (Snapshot.viewFiled (shows ▸ found)).1
    refine Proposal.ofViewLog fun i => ?_
    obtain ⟨_, _, log⟩ := seen.log
    obtain ⟨_, _, log'⟩ := seen'.log
    have ttls : g.log.ttl = g'.log.ttl := by
      rw [log, log']
      rfl
    rw [CrashLog.count, CrashLog.count, logRecord keyed seen, logRecord keyed' seen', ttls, named,
      countAlike keyed keyed' alike apart apart' seen seen']
  · rfl

end

section
variable {t t' : Store} {q : Report} {g' : Sight} {d' : Decision}
  (keyed : s.Keyed) (keyed' : t.Keyed) (ttl : s.heartbeatTtl = t.heartbeatTtl)
  (alike : s.Alike app t) (apart : s.Separate app now) (apart' : t.Separate app now)
  (done : Concludes policy now failing s s' r g d) (done' : Concludes policy now failing t t' q g' d')
include keyed keyed' ttl alike apart apart' done done'

theorem openedAlike : s.openedFor app s' = t.openedFor app t' := by
  have same := proposalAlike keyed keyed' ttl alike apart apart' done.seen done'.seen
  refine Rows.ascendingExt (openedAscending keyed done) (openedAscending keyed' done') fun u => ?_
  rw [memOpenedFor keyed done, memOpenedFor keyed' done', ← same]
  refine exists_congr fun a => and_congr_right fun member => and_congr_left' ?_
  obtain ⟨_, rfl⟩ := (memStartsFor done.seen).mp member
  exact startAlike keyed keyed' alike apart apart' done.seen done'.seen a.index

theorem closedAlike : s.closedFor app s' = t.closedFor app t' := by
  have same := proposalAlike keyed keyed' ttl alike apart apart' done.seen done'.seen
  refine Rows.ascendingExt (closedAscending keyed done) (closedAscending keyed' done') fun u => ?_
  rw [memClosedFor keyed done apart, memClosedFor keyed' done' apart', ← same]
  refine exists_congr fun a => and_congr_right fun member => and_congr_left' ?_
  obtain ⟨proposed, owned⟩ := (memStopsFor done.seen).mp member
  obtain ⟨proposed', _⟩ := (memStopsFor done'.seen).mp (same ▸ member)
  exact stopAlike keyed keyed' alike apart apart' done.seen done'.seen
    (owned ▸ stopLiving done.seen proposed) (owned ▸ stopLiving done'.seen proposed')

theorem countAfterAlike (i : Nat) :
    s'.crashCounts.record? (app.indexKey i) = t'.crashCounts.record? (app.indexKey i) := by
  have before := countAlike keyed keyed' alike apart apart' done.seen done'.seen i
  have counts := concludedCounts keyed done (app.indexKey i)
  have counts' := concludedCounts keyed' done' (app.indexKey i)
  have same : (∃ a, Restarts s s' (app.indexKey i) a) ↔ ∃ a, Restarts t t' (app.indexKey i) a := by
    rw [restartsFor keyed done apart, restartsFor keyed' done' apart',
      proposalAlike keyed keyed' ttl alike apart apart' done.seen done'.seen]
    refine exists_congr fun a => and_congr_right fun _ => and_congr_right fun _ => and_congr_right fun _ => ?_
    exact startAlike keyed keyed' alike apart apart' done.seen done'.seen i
  by_cases restarts : ∃ a, Restarts s s' (app.indexKey i) a
  · obtain ⟨a, is⟩ := restarts
    obtain ⟨b, is'⟩ := same.mp ⟨a, is⟩
    obtain ⟨rfl, rfl⟩ := restartOwned keyed done apart is
    obtain ⟨owned, index⟩ := restartOwned keyed' done' apart' is'
    rw [Rows.record?, Rows.record?, counts.restarted a is, counts'.restarted b is', owned, index,
      Store.raised, Store.raised, Store.current?, Store.current?, before]
  · rw [Rows.record?, Rows.record?, counts.otherwise restarts, counts'.otherwise (mt same.mpr restarts),
      Store.current?, Store.current?, before]
    split
    · exact before
    · rfl

theorem countsAfterAlike :
    s'.crashCounts.records.filter (·.app = app) = t'.crashCounts.records.filter (·.app = app) := by
  have named : ∀ {s s' r g d}, s.Keyed → Concludes policy now failing s s' r g d →
      Rows.Named CrashCount.key s'.crashCounts := by
    intro s s' r g d keyed done
    rw [done.store]
    exact Rows.namedRemove (Rows.namedPut (countsNamed keyed done.seen) d.crashCounts) _
  have each : ∀ {s s' r g d}, s.Keyed → Concludes policy now failing s s' r g d → ∀ c : CrashCount,
      c ∈ s'.crashCounts.records.filter (·.app = app) ↔
        c.app = app ∧ s'.crashCounts.record? (app.indexKey c.index) = some c := by
    intro s s' r g d keyed done c
    rw [List.mem_filter, Rows.memRecords, decide_eq_true_eq, and_comm]
    refine and_congr_right fun owned => ⟨?_, fun record => ⟨_, record⟩⟩
    rintro ⟨k, record⟩
    have key : c.app.indexKey c.index = k := named keyed done k c record
    rw [← owned, key]
    exact record
  refine Rows.ascendingExt ((Rows.recordsAscending (named keyed done)).filter _)
    ((Rows.recordsAscending (named keyed' done')).filter _) fun c => ?_
  rw [each keyed done, each keyed' done',
    countAfterAlike keyed keyed' ttl alike apart apart' done done']

end

theorem analysisSeparate {ttl : Span} {w w' v v' : World} {r q : Report}
    (reachable : w.store.Reachable ttl) (reachable' : v.store.Reachable ttl)
    (alike : w.store.Alike app v.store) (apart : w.store.Separate app now)
    (apart' : v.store.Separate app now)
    (ended : analyze policy now { failing } w = (.ok (.ok r), w'))
    (ended' : analyze policy now { failing } v = (.ok (.ok q), v')) :
    w.store.openedFor app w'.store = v.store.openedFor app v'.store ∧
      w.store.closedFor app w'.store = v.store.closedFor app v'.store ∧
      w'.store.crashCounts.records.filter (·.app = app) =
        v'.store.crashCounts.records.filter (·.app = app) := by
  obtain ⟨g, d, done⟩ := analyzeConcludes ended
  obtain ⟨g', d', done'⟩ := analyzeConcludes ended'
  have keyed := Store.reachableKeyed reachable
  have keyed' := Store.reachableKeyed reachable'
  have ttls : w.store.heartbeatTtl = v.store.heartbeatTtl := by
    rw [Store.reachableTtl reachable, Store.reachableTtl reachable']
  exact ⟨openedAlike keyed keyed' ttls alike apart apart' done done',
    closedAlike keyed keyed' ttls alike apart apart' done done',
    countsAfterAlike keyed keyed' ttls alike apart apart' done done'⟩

def webWanted : Spec := ⟨⟨"web", "v1"⟩, 3, .started, .staged, 0⟩

def webReported : Intake :=
  ⟨[⟨⟨"web", "v1"⟩, 0, "x", .crashed, 1000⟩, ⟨⟨"web", "v1"⟩, 1, "y", .running, 1000⟩], 1000⟩

def webAlone : Store := .after {} (.ofSecs 30) [.sync [webWanted] 1000, .flush webReported]

def webBeside : Store :=
  let api : App := ⟨"api", "v1"⟩
  .after {} (.ofSecs 30) [
    .sync [⟨api, 1, .started, .staged, 0⟩] 1000,
    .flush ⟨[⟨api, 0, "u", .crashed, 1000⟩, ⟨api, 1, "v", .running, 1000⟩], 1000⟩,
    .analysis 1000 [],
    .sync [⟨api, 1, .started, .staged, 0⟩, webWanted] 1000,
    .flush webReported]

theorem webSeparate : ∃ w' v',
    analyze {} 1000 {} ⟨webAlone, []⟩ = (.ok (.ok ⟨1, 0, 2, 0, 0, 0, 1, 0⟩), w') ∧
      analyze {} 1000 {} ⟨webBeside, []⟩ = (.ok (.ok ⟨2, 0, 2, 0, 1, 0, 1, 0⟩), v') ∧
      webAlone.openedFor ⟨"web", "v1"⟩ w'.store = webBeside.openedFor ⟨"web", "v1"⟩ v'.store ∧
      webAlone.closedFor ⟨"web", "v1"⟩ w'.store = webBeside.closedFor ⟨"web", "v1"⟩ v'.store ∧
      w'.store.crashCounts.records.filter (·.app = ⟨"web", "v1"⟩) =
        v'.store.crashCounts.records.filter (·.app = ⟨"web", "v1"⟩) := by
  have reported : (analyze {} 1000 {} ⟨webAlone, []⟩).1 = .ok (.ok ⟨1, 0, 2, 0, 0, 0, 1, 0⟩) := by
    decide +kernel
  have reported' : (analyze {} 1000 {} ⟨webBeside, []⟩).1 = .ok (.ok ⟨2, 0, 2, 0, 1, 0, 1, 0⟩) := by
    decide +kernel
  have ended : analyze {} 1000 {} ⟨webAlone, []⟩ = (.ok (.ok ⟨1, 0, 2, 0, 0, 0, 1, 0⟩), _) :=
    Prod.ext reported rfl
  have ended' : analyze {} 1000 {} ⟨webBeside, []⟩ = (.ok (.ok ⟨2, 0, 2, 0, 1, 0, 1, 0⟩), _) :=
    Prod.ext reported' rfl
  have alike : webAlone.Alike ⟨"web", "v1"⟩ webBeside := by
    constructor <;> decide +kernel
  have apart : webAlone.Separate ⟨"web", "v1"⟩ 1000 := by
    constructor <;> decide +kernel
  have apart' : webBeside.Separate ⟨"web", "v1"⟩ 1000 := by
    constructor <;> decide +kernel
  have reachable : webAlone.Reachable (.ofSecs 30) := Store.afterReachable _ _ _
  have reachable' : webBeside.Reachable (.ofSecs 30) := Store.afterReachable _ _ _
  have separate := analysisSeparate (w := ⟨webAlone, []⟩) (v := ⟨webBeside, []⟩) reachable reachable'
    alike apart apart' ended ended'
  exact ⟨_, _, ended, ended', separate⟩

def wantsOne (app : App) : Deed := .sync [⟨app, 1, .started, .staged, 0⟩] 1000

def runsOne (app : App) : Deed := .flush ⟨[⟨app, 0, "x", .running, 1000⟩], 1000⟩

def namesakeTaken : Store :=
  .after {} (.ofSecs 30) [wantsOne ⟨"a,b", "c"⟩, .flush ⟨[], 1000⟩, .analysis 1000 [], wantsOne ⟨"a", "b,c"⟩]

def namesakeFree : Store := .after {} (.ofSecs 30) [wantsOne ⟨"a", "b,c"⟩, .flush ⟨[], 1000⟩]

def guidTaken : Store :=
  .after {} (.ofSecs 30) [.sync [] 1000, runsOne ⟨"api", "v1"⟩, .analysis 1000 [], runsOne ⟨"web", "v1"⟩]

def guidFree : Store := .after {} (.ofSecs 30) [.sync [] 1000, runsOne ⟨"web", "v1"⟩]

/-- Two stores alike for an application, of which only the second has another's pending
start or stop out of the way: only there its own is enqueued. -/
theorem takenDiffers :
    (namesakeTaken.Reachable (.ofSecs 30) ∧ namesakeFree.Reachable (.ofSecs 30) ∧
      namesakeTaken.Alike ⟨"a", "b,c"⟩ namesakeFree ∧
      (analyze {} 1000 {} ⟨namesakeTaken, []⟩).1 = .ok (.ok ⟨1, 0, 0, 0, 1, 0, 0, 0⟩) ∧
      (analyze {} 1000 {} ⟨namesakeFree, []⟩).1 = .ok (.ok ⟨1, 0, 1, 0, 0, 0, 0, 0⟩) ∧
      namesakeTaken.openedFor ⟨"a", "b,c"⟩ (analyze {} 1000 {} ⟨namesakeTaken, []⟩).2.store ≠
        namesakeFree.openedFor ⟨"a", "b,c"⟩ (analyze {} 1000 {} ⟨namesakeFree, []⟩).2.store) ∧
    guidTaken.Reachable (.ofSecs 30) ∧ guidFree.Reachable (.ofSecs 30) ∧
      guidTaken.Alike ⟨"web", "v1"⟩ guidFree ∧
      (analyze {} 1000 {} ⟨guidTaken, []⟩).1 = .ok (.ok ⟨2, 0, 0, 0, 0, 2, 0, 0⟩) ∧
      (analyze {} 1000 {} ⟨guidFree, []⟩).1 = .ok (.ok ⟨1, 0, 0, 1, 0, 0, 0, 0⟩) ∧
      guidTaken.closedFor ⟨"web", "v1"⟩ (analyze {} 1000 {} ⟨guidTaken, []⟩).2.store ≠
        guidFree.closedFor ⟨"web", "v1"⟩ (analyze {} 1000 {} ⟨guidFree, []⟩).2.store := by
  have namesakes : namesakeTaken.Alike ⟨"a", "b,c"⟩ namesakeFree := by
    constructor <;> decide +kernel
  have guids : guidTaken.Alike ⟨"web", "v1"⟩ guidFree := by
    constructor <;> decide +kernel
  refine ⟨⟨Store.afterReachable _ _ _, Store.afterReachable _ _ _, namesakes, ?_, ?_, ?_⟩,
    Store.afterReachable _ _ _, Store.afterReachable _ _ _, guids, ?_, ?_, ?_⟩ <;> decide +kernel

end Analysis
end Fleet
